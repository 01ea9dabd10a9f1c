import RecordSchema.Settings.Variables
import RecordSchema.Text.Blank

namespace RecordSchema

/-!
Text that assigns variables line by line.  A value may be quoted and then hold line
breaks; names in braces after a dollar sign stand for the values of other variables.  A line
that cannot be read assigns nothing.
-/

namespace Assignment

def isLineEnd (c : Char) : Bool := c = '\n' || c = '\r'

def isGap (c : Char) : Bool := isBlank c && !isLineEnd c

def dropGap (chars : List Char) : List Char := chars.dropWhile isGap

def dropLine (chars : List Char) : List Char := chars.dropWhile (fun c => !isLineEnd c)

/-! ### Values -/

/-- The characters up to the closing quote, and the rest after it.  A quote after a
backslash belongs to the value if a later one can close it. -/
def quotedValue? (quote : Char) : List Char → Option (List Char × List Char)
  | [] => none
  | '\\' :: c :: rest =>
      if c = quote then
        ((quotedValue? quote rest).map (fun found => ('\\' :: c :: found.1, found.2)))
          <|> some (['\\'], rest)
      else (quotedValue? quote (c :: rest)).map (fun found => ('\\' :: found.1, found.2))
  | c :: rest =>
      if c = quote then some ([], rest)
      else (quotedValue? quote rest).map (fun found => (c :: found.1, found.2))

def singleEscape? (c : Char) : Option Char :=
  if c = '\\' ∨ c = '\'' then some c else none

def doubleEscape? (c : Char) : Option Char :=
  (singleEscape? c) <|>
    (([('"', 0x22), ('a', 0x07), ('b', 0x08), ('f', 0x0c), ('n', 0x0a), ('r', 0x0d), ('t', 0x09),
      ('v', 0x0b)].find? (fun entry => entry.1 = c)).map (fun entry => Char.ofNat entry.2))

/-- The characters with escapes replaced; other backslashes stand for themselves. -/
def unescape (escape? : Char → Option Char) : List Char → List Char
  | '\\' :: c :: rest =>
      match escape? c with
      | some escaped => escaped :: unescape escape? rest
      | none => '\\' :: unescape escape? (c :: rest)
  | c :: rest => c :: unescape escape? rest
  | [] => []

def cutRemark : List Char → List Char
  | [] => []
  | c :: rest =>
      if isBlank c ∧ (rest.dropWhile isBlank).head? = some '#' then []
      else c :: cutRemark rest

def value? : List Char → Option (List Char × List Char)
  | '"' :: rest =>
      (quotedValue? '"' rest).map (fun found => (unescape doubleEscape? found.1, found.2))
  | '\'' :: rest =>
      (quotedValue? '\'' rest).map (fun found => (unescape singleEscape? found.1, found.2))
  | chars =>
      let line := chars.takeWhile (fun c => !isLineEnd c)
      some (dropBlanksRight (cutRemark line), dropLine chars)

/-! ### Lines -/

def isNameChar (c : Char) : Bool :=
  !(c = '=' || c = '#' || isBlank c)

def dropExport (chars : List Char) : List Char :=
  match chars with
  | 'e' :: 'x' :: 'p' :: 'o' :: 'r' :: 't' :: c :: rest =>
      if isGap c then dropGap rest else chars
  | _ => chars

def name? : List Char → Option (List Char × List Char)
  | '\'' :: rest =>
      let name := rest.takeWhile (· ≠ '\'')
      match rest.dropWhile (· ≠ '\'') with
      | _ :: after => if name.isEmpty then none else some (name, after)
      | [] => none
  | chars =>
      let name := chars.takeWhile isNameChar
      if name.isEmpty then none else some (name, chars.dropWhile isNameChar)

/-- Whether nothing but a remark is left of a line. -/
def isClosed (chars : List Char) : Bool :=
  match dropGap chars with
  | [] => true
  | c :: _ => c = '#' || isLineEnd c

/-- A name, and the value assigned to it; a name on its own has none. -/
abbrev Entry := String × Option (List Char)

def entry? (chars : List Char) : Option Entry × List Char :=
  match name? chars with
  | none => (none, chars)
  | some (name, afterName) =>
      match dropGap afterName with
      | '=' :: given =>
          match value? (dropGap given) with
          | none => (none, given)
          | some (value, rest) =>
              (if isClosed rest then some (String.ofList name, some value) else none, rest)
      | rest => (if isClosed rest then some (String.ofList name, none) else none, rest)

def entries : Nat → List Char → List Entry
  | 0, _ => []
  | fuel + 1, chars =>
      let start := chars.dropWhile isBlank
      if start.isEmpty then []
      else
        let (entry, rest) := entry? (dropExport start)
        entry.toList ++ entries fuel (dropLine rest)

/-! ### References -/

def reference? (bindings : Variables) (chars : List Char) : Option (List Char × List Char) :=
  let name := chars.takeWhile (fun c => c ≠ '\x7d' && c ≠ ':')
  let value := bindings.get? (String.ofList name)
  match chars.drop name.length with
  | '\x7d' :: rest => some ((value.getD "").toList, rest)
  | ':' :: '-' :: rest =>
      let default := rest.takeWhile (· ≠ '\x7d')
      match rest.drop default.length with
      | _ :: after => some ((value.getD (String.ofList default)).toList, after)
      | [] => none
  | _ => none

def resolve (bindings : Variables) : Nat → List Char → List Char
  | 0, chars => chars
  | _ + 1, [] => []
  | fuel + 1, c :: rest =>
      let found := if c = '$' ∧ rest.head? = some '\x7b' then reference? bindings (rest.drop 1)
        else none
      match found with
      | some (value, after) => value ++ resolve bindings fuel after
      | none => c :: resolve bindings fuel rest

def assign (outer assigned : Variables) : List Entry → Variables
  | [] => assigned
  | (name, none) :: rest => assign outer (assigned.erase name) rest
  | (name, some value) :: rest =>
      let resolved := resolve (assigned ++ outer) value.length value
      assign outer (assigned.set name (String.ofList resolved)) rest

end Assignment

/-- The variables that a text assigns in an environment; a later line wins. -/
def Variables.ofText (outer : Variables) (text : String) : Variables :=
  let chars := text.toList
  Assignment.assign outer [] (Assignment.entries (chars.length + 1) chars)

end RecordSchema
