import RecordSchema.Number.Binary64
import RecordSchema.Number.Shortest

namespace RecordSchema

/-!
Numbers as the descriptions and the data hold them: integers of any size beside
binary64 numbers, compared by their exact values.
-/

inductive Number where
  | int (value : Int)
  | float (value : Binary64)
deriving DecidableEq, Repr

namespace Number

def ratio? : Number → Option (Int × Nat)
  | .int value => some (value, 1)
  | .float value => value.ratio?

/-- Strict order by exact value.  Nothing is below or above a number that is none. -/
def lt (x y : Number) : Bool :=
  match x.ratio?, y.ratio? with
  | some (a, b), some (c, d) => a * d < c * b
  | some _, none => y = .float (.infinite false)
  | none, some _ => x = .float (.infinite true)
  | none, none => x = .float (.infinite true) && y = .float (.infinite false)

/-- Equality by exact value.  A number that is none equals only its own occurrence. -/
def same (x y : Number) : Bool :=
  match x.ratio?, y.ratio? with
  | some (a, b), some (c, d) => a * d = c * b
  | none, none => x = y
  | _, _ => false

def isNaN : Number → Bool
  | .int _ => false
  | .float value => value.isNaN

def isIntegral : Number → Bool
  | .int _ => true
  | .float value => value.isIntegral

def text : Number → String
  | .int value => toString value
  | .float value => value.text

end Number

end RecordSchema
