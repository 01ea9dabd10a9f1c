import RecordSchema.Text.Printable

namespace RecordSchema

/-!
Quoted text: single quotes, or double quotes around text that holds a single quote and
no double one; backslash escapes for the quote, the backslash and what cannot be shown.
-/

namespace Quoted

def hexDigit (value : Nat) : Char :=
  if value < 10 then Char.ofNat ('0'.toNat + value) else Char.ofNat ('a'.toNat + value - 10)

def hex : Nat → Nat → List Char
  | 0, _ => []
  | count + 1, code => hex count (code / 16) ++ [hexDigit (code % 16)]

def quoteFor (chars : List Char) : Char :=
  if chars.contains '\'' && !chars.contains '"' then '"' else '\''

def shortEscape? (quote c : Char) : Option (List Char) :=
  if c = quote ∨ c = '\\' then some ['\\', c]
  else if c = '\n' then some ['\\', 'n']
  else if c = '\r' then some ['\\', 'r']
  else if c = '\t' then some ['\\', 't']
  else none

def escape (quote c : Char) : List Char :=
  match shortEscape? quote c with
  | some escaped => escaped
  | none =>
    if isPrintable c then [c]
    else if c.toNat < 0x100 then '\\' :: 'x' :: hex 2 c.toNat
    else if c.toNat < 0x10000 then '\\' :: 'u' :: hex 4 c.toNat
    else '\\' :: 'U' :: hex 8 c.toNat

def escapeByte (quote c : Char) : List Char :=
  match shortEscape? quote c with
  | some escaped => escaped
  | none =>
    if 0x20 ≤ c.toNat ∧ c.toNat < 0x7f then [c] else '\\' :: 'x' :: hex 2 c.toNat

def encode (escape : Char → Char → List Char) (chars : List Char) : List Char :=
  let quote := quoteFor chars
  quote :: chars.flatMap (escape quote) ++ [quote]

end Quoted

def quoted (text : String) : String :=
  String.ofList (Quoted.encode Quoted.escape text.toList)

def quotedBytes (bytes : List UInt8) : String :=
  String.ofList ('b' :: Quoted.encode Quoted.escapeByte (bytes.map (fun b => Char.ofNat b.toNat)))

end RecordSchema
