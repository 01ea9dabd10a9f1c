namespace RecordSchema

/-!
Patterns of text.  A pattern maps characters to all that may be left after a part of
them that fits; a text fits as a whole if nothing may be left.
-/

abbrev Pattern := List Char → List (List Char)

namespace Pattern

def one (inClass : Char → Bool) : Pattern
  | c :: rest => if inClass c then [rest] else []
  | [] => []

def char (c : Char) : Pattern := one (· = c)

def word (text : String) : Pattern := fun chars =>
  if text.toList.isPrefixOf chars then [chars.drop text.length] else []

def many (inClass : Char → Bool) : Pattern
  | [] => [[]]
  | c :: rest => if inClass c then many inClass rest ++ [c :: rest] else [c :: rest]

def andThen (first second : Pattern) : Pattern := fun chars =>
  (first chars).flatMap second

def orElse (first second : Pattern) : Pattern := fun chars =>
  first chars ++ second chars

def optional (pattern : Pattern) : Pattern := fun chars =>
  pattern chars ++ [chars]

def some (inClass : Char → Bool) : Pattern := andThen (one inClass) (many inClass)

def all (patterns : List Pattern) : Pattern :=
  patterns.foldr andThen (fun chars => [chars])

def any (patterns : List Pattern) : Pattern :=
  patterns.foldr orElse (fun _ => [])

/-- A pattern at least once and at most so many times. -/
def repeated (pattern : Pattern) : Nat → Pattern
  | 0 => fun _ => []
  | fuel + 1 => fun chars =>
      (pattern chars).flatMap (fun rest => repeated pattern fuel rest ++ [rest])

def fits (pattern : Pattern) (text : String) : Bool :=
  (pattern text.toList).any List.isEmpty

end Pattern

end RecordSchema
