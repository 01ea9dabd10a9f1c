import RecordSchema.Text.Base64
import RecordSchema.Text.Blank
import RecordSchema.Yaml.Timestamp

namespace RecordSchema.Yaml

/-!
What scalars stand for by their types.
-/

namespace Literal

def partsAt (mark : Char) : List Char → List (List Char)
  | [] => [[]]
  | c :: rest =>
      if c = mark then [] :: partsAt mark rest
      else
        match partsAt mark rest with
        | part :: parts => (c :: part) :: parts
        | [] => [[c]]

def withoutBars (text : String) : List Char :=
  text.toList.filter (· ≠ '_')

/-- A sign and the characters after it.  There has to be something to look at. -/
def signed : List Char → Read (Bool × List Char)
  | [] => .error (.fault .index)
  | c :: rest =>
      if c = '-' then .ok (true, rest)
      else if c = '+' then .ok (false, rest)
      else .ok (false, c :: rest)

def sexagesimal (add : α → α → α) (scale : α → Nat → α) (zero : α) (parts : List α) : α :=
  (parts.reverse.zipIdx.map (fun part => scale part.1 (Nat.pow 60 part.2))).foldl add zero

/-! ### Integers -/

def baseMark? (base : Nat) : Option Char :=
  if base = 2 then some 'b' else if base = 8 then some 'o' else if base = 16 then some 'x'
  else none

def dropBaseMark (base : Nat) : List Char → List Char
  | '0' :: c :: rest => if baseMark? base = some c.toLower then rest else '0' :: c :: rest
  | chars => chars

def mostDecimals : Nat := 4300

def isDigitIn (base : Nat) (c : Char) : Bool :=
  Quotes.isHexDigit c && Quotes.hexDigitValue c < base

def naturalIn? (base : Nat) (digits : List Char) : Option Nat :=
  if digits.isEmpty || !digits.all (isDigitIn base)
      || (base = 10 && mostDecimals < digits.length) then none
  else some (digits.foldl (fun value c => base * value + Quotes.hexDigitValue c) 0)

def integerIn (base : Nat) (chars : List Char) : Read Int :=
  let (negative, body) := match stripBlanks chars with
    | '-' :: rest => (true, rest)
    | '+' :: rest => (false, rest)
    | rest => (false, rest)
  match naturalIn? base (dropBaseMark base body) with
  | some value => .ok (if negative then -(value : Int) else value)
  | none => .error (.fault .value)

def unsignedInteger : List Char → Read Int
  | [] => .error (.fault .index)
  | ['0'] => .ok 0
  | '0' :: 'b' :: digits => integerIn 2 digits
  | '0' :: 'x' :: digits => integerIn 16 digits
  | '0' :: digits => integerIn 8 ('0' :: digits)
  | chars =>
      if chars.contains ':' then do
        let parts ← (partsAt ':' chars).mapM (integerIn 10)
        return sexagesimal (· + ·) (fun part weight => part * weight) 0 parts
      else integerIn 10 chars

def integer (text : String) : Read Int := do
  let (negative, chars) ← signed (withoutBars text)
  let value ← unsignedInteger chars
  return if negative then -value else value

/-! ### Floats -/

def decimal (chars : List Char) : Read Binary64 :=
  match Binary64.ofText? (String.ofList (stripBlanks chars)) with
  | some value => .ok value
  | none => .error (.fault .value)

def unsignedFloat (chars : List Char) : Read Binary64 :=
  if chars = ".inf".toList then .ok (.infinite false)
  else if chars = ".nan".toList then .ok (.nan 0)
  else if chars.contains ':' then do
    let parts ← (partsAt ':' chars).mapM decimal
    return sexagesimal Binary64.add Binary64.scale (.zero false) parts
  else decimal chars

def float (text : String) : Read Binary64 := do
  let (negative, chars) ← signed ((withoutBars text).map Char.toLower)
  let value ← unsignedFloat chars
  return if negative then value.negate else value

/-! ### Other types -/

def boolean (text : String) : Read Bool :=
  let word := String.ofList (text.toList.map Char.toLower)
  if Spelling.truths.contains word then .ok true
  else if Spelling.falsehoods.contains word then .ok false
  else .error (.fault .key)

def bytes (text : String) : Read (List UInt8) := do
  require (text.toList.all (fun c => c.toNat < 0x80))
  match Base64.decode? text with
  | some data => return data
  | none => malformed

/-- What a text stands for; only scalars of known types stand for anything. -/
def value (tag : Tag) (text : String) : Read Value :=
  match tag with
  | .null => return .null
  | .bool => return .bool (← boolean text)
  | .int => return .int (← integer text)
  | .float => return .float (← float text)
  | .binary => return .bytes false (← bytes text)
  | .timestamp => Timestamp.read text
  | .str => return .text text
  | _ => malformed

end Literal

end RecordSchema.Yaml
