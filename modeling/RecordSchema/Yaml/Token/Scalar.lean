import RecordSchema.Number.Decimal
import RecordSchema.Text.Quoted
import RecordSchema.Yaml.Cursor

namespace RecordSchema.Yaml

/-!
Reading scalars: plain, quoted and block text.  Line breaks within a scalar are folded
by the rules of its style.
-/

/-- A line break between two lines of text becomes a space; empty lines in between are
kept as they are instead. -/
def foldBreaks (first : List Char) (more : List Char) : List Char :=
  if first ≠ ['\n'] then first ++ more
  else if more.isEmpty then [' ']
  else more

namespace Plain

def endsAt (inFlow : Bool) (c : Char) (rest : List Char) : Bool :=
  let after := rest.headD endOfText
  isGap c
    || (c = ':' && (isGap after || (inFlow && [',', '[', ']', '{', '}'].contains after)))
    || (inFlow && [',', '?', '[', ']', '{', '}'].contains c)

def run (inFlow : Bool) : List Char → List Char
  | [] => []
  | c :: rest => if endsAt inFlow c rest then [] else c :: run inFlow rest

/-- Blank lines and indentation inside a plain scalar; nothing if a document marker
stands at the start of a line. -/
def blankLines : Nat → Cursor → List Char → Option (List Char) × Cursor
  | 0, cursor, found => (some found, cursor)
  | fuel + 1, cursor, found =>
      if cursor.current = ' ' then blankLines fuel cursor.advance found
      else if isBreak cursor.current then
        let (text, cursor) := cursor.lineBreak
        if cursor.atSeparator then (none, cursor) else blankLines fuel cursor (found ++ text)
      else (some found, cursor)

def gap (cursor : Cursor) : List Char × Bool × Cursor :=
  let (spaces, cursor) := cursor.takeWhile (· = ' ')
  if isBreak cursor.current then
    let (first, cursor) := cursor.lineBreak
    if cursor.atSeparator then ([], true, cursor)
    else
      match blankLines cursor.bound cursor [] with
      | (some more, cursor) => (foldBreaks first more, true, cursor)
      | (none, cursor) => ([], true, cursor)
  else (spaces, false, cursor)

def read (inFlow : Bool) (indent : Int) :
    Nat → Cursor → List Char → List Char → Bool → List Char × Bool × Cursor
  | 0, cursor, found, _, ended => (found, ended, cursor)
  | fuel + 1, cursor, found, between, ended =>
      let text := if cursor.current = '#' then [] else run inFlow cursor.rest
      if text.isEmpty then (found, ended, cursor)
      else
        let found := found ++ between ++ text
        let (between, ended, cursor) := gap (cursor.skip text.length)
        if between.isEmpty || cursor.current = '#' || (!inFlow && (cursor.column : Int) < indent)
        then (found, ended, cursor)
        else read inFlow indent fuel cursor found between ended

end Plain

namespace Quotes

def escapes : List (Char × Nat) :=
  [('0', 0x00), ('a', 0x07), ('b', 0x08), ('t', 0x09), ('\t', 0x09), ('n', 0x0a), ('v', 0x0b),
    ('f', 0x0c), ('r', 0x0d), ('e', 0x1b), (' ', 0x20), ('"', 0x22), ('\\', 0x5c), ('/', 0x2f),
    ('N', 0x85), ('_', 0xa0), ('L', 0x2028), ('P', 0x2029)]

def digitCount? (c : Char) : Option Nat :=
  if c = 'x' then some 2 else if c = 'u' then some 4 else if c = 'U' then some 8 else none

def isHexDigit (c : Char) : Bool :=
  c.isDigit || ('a' ≤ c && c ≤ 'f') || ('A' ≤ c && c ≤ 'F')

def hexDigitValue (c : Char) : Nat :=
  if c.isDigit then c.toNat - '0'.toNat
  else if 'a' ≤ c then c.toNat - 'a'.toNat + 10
  else c.toNat - 'A'.toNat + 10

def ofHexDigits (digits : List Char) : Nat :=
  digits.foldl (fun value c => 16 * value + hexDigitValue c) 0

/-- The character with a code.  Codes of half characters read as the replacement
character, codes beyond the last character are out of range. -/
def charOfCode (code : Nat) : Read Char :=
  if 0x110000 ≤ code then .error (.fault .value)
  else if 0xd800 ≤ code ∧ code < 0xe000 then .ok (Char.ofNat 0xfffd)
  else .ok (Char.ofNat code)

/-- Empty lines inside a quoted scalar.  No document marker may stand at the start of
one. -/
def blankLines : Nat → Cursor → List Char → Read (List Char × Cursor)
  | 0, cursor, found => return (found, cursor)
  | fuel + 1, cursor, found => do
      require (!cursor.atSeparator)
      let cursor := cursor.dropWhile (fun c => c = ' ' || c = '\t')
      if isBreak cursor.current then
        let (text, cursor) := cursor.lineBreak
        blankLines fuel cursor (found ++ text)
      else return (found, cursor)

def escape (cursor : Cursor) : Read (List Char × Cursor) := do
  let c := cursor.current
  match escapes.find? (fun entry => entry.1 = c), digitCount? c with
  | some entry, _ => return ([Char.ofNat entry.2], cursor.advance)
  | none, some count =>
      let cursor := cursor.advance
      let digits := cursor.rest.take count
      require (digits.length = count && digits.all isHexDigit)
      return ([← charOfCode (ofHexDigits digits)], cursor.skip count)
  | none, none =>
      require (isBreak c)
      blankLines cursor.bound cursor.lineBreak.2 []

def isPlainChar (c : Char) : Bool :=
  !(c = '\'' || c = '"' || c = '\\' || isGap c)

def text (double : Bool) : Nat → Cursor → List Char → Read (List Char × Cursor)
  | 0, cursor, found => return (found, cursor)
  | fuel + 1, cursor, found => do
      let (stretch, cursor) := cursor.takeWhile isPlainChar
      let found := found ++ stretch
      let c := cursor.current
      if !double && c = '\'' && cursor.peek 1 = '\'' then
        text double fuel (cursor.skip 2) (found ++ [c])
      else if (double && c = '\'') || (!double && (c = '"' || c = '\\')) then
        text double fuel cursor.advance (found ++ [c])
      else if double && c = '\\' then
        let (escaped, cursor) ← escape cursor.advance
        text double fuel cursor (found ++ escaped)
      else return (found, cursor)

def gap (cursor : Cursor) : Read (List Char × Cursor) := do
  let (blanks, cursor) := cursor.takeWhile (fun c => c = ' ' || c = '\t')
  require (cursor.current ≠ endOfText)
  if isBreak cursor.current then
    let (first, cursor) := cursor.lineBreak
    let (more, cursor) ← blankLines cursor.bound cursor []
    return (foldBreaks first more, cursor)
  else return (blanks, cursor)

def body (double : Bool) : Nat → Cursor → List Char → Read (List Char × Cursor)
  | 0, _, _ => malformed
  | fuel + 1, cursor, found => do
      if cursor.current = (if double then '"' else '\'') then return (found, cursor.advance)
      else
        let (between, cursor) ← gap cursor
        let (more, cursor) ← text double cursor.bound cursor []
        body double fuel cursor (found ++ between ++ more)

def read (double : Bool) (cursor : Cursor) : Read (List Char × Cursor) := do
  let cursor := cursor.advance
  let (found, cursor) ← text double cursor.bound cursor []
  body double cursor.bound cursor found

end Quotes

namespace Block

inductive Chomping where
  | clip
  | strip
  | keep
deriving DecidableEq, Repr

structure Header where
  chomping : Chomping
  increment : Option Nat

def chompingOf (c : Char) : Option Chomping :=
  if c = '+' then some .keep else if c = '-' then some .strip else none

def incrementAt (cursor : Cursor) : Read (Option Nat × Cursor) :=
  match digitValue? cursor.current with
  | none => return (none, cursor)
  | some 0 => malformed
  | some increment => return (some increment, cursor.advance)

def header (cursor : Cursor) : Read (Header × Cursor) := do
  let (header, cursor) ← match chompingOf cursor.current with
    | some chomping => do
        let (increment, cursor) ← incrementAt cursor.advance
        pure (⟨chomping, increment⟩, cursor)
    | none => do
        let (increment, cursor) ← incrementAt cursor
        match increment, chompingOf cursor.current with
        | some _, some chomping => pure (⟨chomping, increment⟩, cursor.advance)
        | _, _ => pure (⟨.clip, increment⟩, cursor)
  require (isSpaceOrBreak cursor.current)
  return (header, cursor)

def leading : Nat → Cursor → List Char → Nat → List Char × Nat × Cursor
  | 0, cursor, found, deepest => (found, deepest, cursor)
  | fuel + 1, cursor, found, deepest =>
      if cursor.current = ' ' then
        let cursor := cursor.advance
        leading fuel cursor found (max deepest cursor.column)
      else if isBreak cursor.current then
        let (text, cursor) := cursor.lineBreak
        leading fuel cursor (found ++ text) deepest
      else (found, deepest, cursor)

def indentTo (column : Nat) : Nat → Cursor → Cursor
  | 0, cursor => cursor
  | fuel + 1, cursor =>
      if cursor.column < column ∧ cursor.current = ' ' then indentTo column fuel cursor.advance
      else cursor

def breaks (column : Nat) : Nat → Cursor → List Char → List Char × Cursor
  | 0, cursor, found => (found, cursor)
  | fuel + 1, cursor, found =>
      let cursor := indentTo column column cursor
      if isBreak cursor.current then
        let (text, cursor) := cursor.lineBreak
        breaks column fuel cursor (found ++ text)
      else (found, cursor)

def startsBlank (cursor : Cursor) : Bool :=
  cursor.current = ' ' || cursor.current = '\t'

def holdsText (column : Nat) (cursor : Cursor) : Bool :=
  cursor.column = column && cursor.current ≠ endOfText

def lines (folded : Bool) (column : Nat) :
    Nat → Cursor → List Char → List Char → List Char × List Char × List Char × Cursor
  | 0, cursor, found, empty => (found, [], empty, cursor)
  | fuel + 1, cursor, found, empty =>
      let flush := !startsBlank cursor
      let (text, cursor) := cursor.takeWhile (fun c => !isBreakOrEnd c)
      let found := found ++ empty ++ text
      let (lineEnd, cursor) := cursor.lineBreak
      let (empty, cursor) := breaks column cursor.bound cursor []
      if holdsText column cursor then
        let between :=
          if folded && lineEnd = ['\n'] && flush && !startsBlank cursor then
            if empty.isEmpty then [' '] else []
          else lineEnd
        lines folded column fuel cursor (found ++ between) empty
      else (found, lineEnd, empty, cursor)

def read (folded : Bool) (indent : Int) (cursor : Cursor) : Read (List Char × Cursor) := do
  let (header, cursor) ← header cursor.advance
  let cursor ← cursor.endLine
  let least := (indent + 1).toNat.max 1
  let (empty, column, cursor) := match header.increment with
    | none =>
        let (empty, deepest, cursor) := leading cursor.bound cursor [] 0
        (empty, max least deepest, cursor)
    | some increment =>
        let column := least + increment - 1
        let (empty, cursor) := breaks column cursor.bound cursor []
        (empty, column, cursor)
  let (found, lineEnd, empty, cursor) :=
    if holdsText column cursor then lines folded column cursor.bound cursor [] empty
    else ([], [], empty, cursor)
  let lineEnd := if header.chomping = .strip then [] else lineEnd
  let empty := if header.chomping = .keep then empty else []
  return (found ++ lineEnd ++ empty, cursor)

end Block

end RecordSchema.Yaml
