import RecordSchema.Error

namespace RecordSchema.Yaml

/-!
Positions in a YAML text.  A cursor knows what is left to read and on which line and in
which column it stands; the end of the text reads as the null character, which no text may
hold.
-/

inductive Problem where
  | malformed
  | fault (fault : Fault)
deriving DecidableEq, Repr

abbrev Read := Except Problem

def malformed : Read α := .error .malformed

/-- The problem unless the condition holds. -/
def require (condition : Bool) : Read Unit :=
  if condition then .ok () else malformed

/-! ### Character classes -/

def endOfText : Char := '\x00'

def isBreak (c : Char) : Bool :=
  c = '\n' || c = '\r' || c.toNat = 0x85 || c.toNat = 0x2028 || c.toNat = 0x2029

def isBreakOrEnd (c : Char) : Bool :=
  isBreak c || c = endOfText

def isSpaceOrBreak (c : Char) : Bool :=
  c = ' ' || isBreakOrEnd c

def isGap (c : Char) : Bool :=
  c = '\t' || isSpaceOrBreak c

def isWordChar (c : Char) : Bool :=
  c.isAlphanum || c = '-' || c = '_'

def byteOrderMark : Char := Char.ofNat 0xfeff

def isAllowed (c : Char) : Bool :=
  let code := c.toNat
  code = 0x09 || code = 0x0a || code = 0x0d || (0x20 ≤ code && code ≤ 0x7e) || code = 0x85
    || (0xa0 ≤ code && code ≤ 0xd7ff) || (0xe000 ≤ code && code ≤ 0xfffd)
    || (0x10000 ≤ code && code ≤ 0x10ffff)

/-! ### Cursors -/

structure Cursor where
  rest : List Char
  index : Nat := 0
  line : Nat := 0
  column : Nat := 0

namespace Cursor

def peek (cursor : Cursor) (ahead : Nat) : Char :=
  (cursor.rest.drop ahead).headD endOfText

def current (cursor : Cursor) : Char :=
  cursor.rest.headD endOfText

/-- One character further.  A line ends after its break, and a carriage return before a
line feed is no break of its own. -/
def advance (cursor : Cursor) : Cursor :=
  match cursor.rest with
  | [] => cursor
  | c :: rest =>
      if isBreak c && !(c = '\r' && rest.head? = some '\n') then
        ⟨rest, cursor.index + 1, cursor.line + 1, 0⟩
      else if c = byteOrderMark then ⟨rest, cursor.index + 1, cursor.line, cursor.column⟩
      else ⟨rest, cursor.index + 1, cursor.line, cursor.column + 1⟩

def skip : Nat → Cursor → Cursor
  | 0, cursor => cursor
  | count + 1, cursor => skip count cursor.advance

def takeWhile (cursor : Cursor) (inClass : Char → Bool) : List Char × Cursor :=
  let taken := cursor.rest.takeWhile inClass
  (taken, cursor.skip taken.length)

def dropWhile (cursor : Cursor) (inClass : Char → Bool) : Cursor :=
  (cursor.takeWhile inClass).2

def dropSpaces (cursor : Cursor) : Cursor :=
  cursor.dropWhile (· = ' ')

def dropComment (cursor : Cursor) : Cursor :=
  if cursor.current = '#' then cursor.dropWhile (fun c => !isBreakOrEnd c) else cursor

def lineBreak (cursor : Cursor) : List Char × Cursor :=
  let c := cursor.current
  if c = '\r' ∧ cursor.peek 1 = '\n' then (['\n'], cursor.skip 2)
  else if c = '\n' ∨ c = '\r' ∨ c.toNat = 0x85 then (['\n'], cursor.advance)
  else if c.toNat = 0x2028 ∨ c.toNat = 0x2029 then ([c], cursor.advance)
  else ([], cursor)

def atMarker (cursor : Cursor) (c : Char) : Bool :=
  cursor.peek 0 = c && cursor.peek 1 = c && cursor.peek 2 = c && isGap (cursor.peek 3)

def atSeparator (cursor : Cursor) : Bool :=
  cursor.atMarker '-' || cursor.atMarker '.'

def bound (cursor : Cursor) : Nat :=
  cursor.rest.length + 1

def endLine (cursor : Cursor) : Read Cursor := do
  let cursor := cursor.dropSpaces.dropComment
  require (isBreakOrEnd cursor.current)
  return cursor.lineBreak.2

end Cursor

end RecordSchema.Yaml
