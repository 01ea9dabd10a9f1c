namespace RecordSchema

/-!
Binary64 numbers, kept as exact dyadic values.  `ofRatio` rounds a quotient to
the nearest number, ties to the even significand.
-/

/-- A binary64 number.  A finite one has the value `± significand · 2 ^ exponent`,
with the significand below `2 ^ 53` and as large as the range of exponents admits.
Numbers that are not a number carry the label of the occurrence they stem from. -/
inductive Binary64 where
  | finite (negative : Bool) (significand : Nat) (exponent : Int)
  | infinite (negative : Bool)
  | nan (label : Nat)
deriving DecidableEq, Repr

namespace Binary64

def hiddenBit : Nat := Nat.pow 2 52

def leastExponent : Int := -1074

def greatestExponent : Int := 971

def zero (negative : Bool) : Binary64 := .finite negative 0 leastExponent

def divideToEven (numerator denominator : Nat) : Nat :=
  let quotient := numerator / denominator
  let doubled := 2 * (numerator % denominator)
  if doubled < denominator then quotient
  else if denominator < doubled then quotient + 1
  else quotient + quotient % 2

def scaleDown (numerator denominator : Nat) (exponent : Int) : Nat × Nat :=
  if 0 ≤ exponent then (numerator, denominator * Nat.pow 2 exponent.toNat)
  else (numerator * Nat.pow 2 (-exponent).toNat, denominator)

def exponentOf (numerator denominator : Nat) : Int :=
  let estimate : Int := (numerator.log2 : Int) - denominator.log2 - 52
  let scaled := scaleDown numerator denominator estimate
  let exact := if scaled.1 / scaled.2 < hiddenBit then estimate - 1 else estimate
  max leastExponent exact

def ofRatio (negative : Bool) (numerator denominator : Nat) : Binary64 :=
  if numerator = 0 then zero negative
  else
    let exponent := exponentOf numerator denominator
    let scaled := scaleDown numerator denominator exponent
    let significand := divideToEven scaled.1 scaled.2
    let carried := 2 * hiddenBit ≤ significand
    let exponent := if carried then exponent + 1 else exponent
    let significand := if carried then hiddenBit else significand
    if greatestExponent < exponent then .infinite negative
    else .finite negative significand exponent

def isNaN : Binary64 → Bool
  | .nan _ => true
  | _ => false

def isNegative : Binary64 → Bool
  | .finite negative _ _ => negative
  | .infinite negative => negative
  | .nan _ => false

def ratio? : Binary64 → Option (Int × Nat)
  | .finite negative significand exponent =>
    let signed : Int := if negative then -(significand : Int) else significand
    some (if 0 ≤ exponent then (signed * Nat.pow 2 exponent.toNat, 1)
      else (signed, Nat.pow 2 (-exponent).toNat))
  | _ => none

def isIntegral (x : Binary64) : Bool :=
  match x.ratio? with
  | some (numerator, denominator) => numerator % denominator == 0
  | none => false

def add (x y : Binary64) : Binary64 :=
  match x.ratio?, y.ratio? with
  | some (a, b), some (c, d) =>
    let sum := a * d + c * b
    if sum = 0 then zero (x.isNegative && y.isNegative)
    else ofRatio (sum < 0) sum.natAbs (b * d)
  | none, some _ => x
  | some _, none => y
  | none, none => if x = y then x else .nan 0

def scale (x : Binary64) (factor : Nat) : Binary64 :=
  match x with
  | .finite negative _ _ =>
    match x.ratio? with
    | some (a, b) => ofRatio negative (a.natAbs * factor) b
    | none => x
  | _ => x

def negate : Binary64 → Binary64
  | .finite negative significand exponent => .finite (!negative) significand exponent
  | .infinite negative => .infinite (!negative)
  | .nan label => .nan label

end Binary64

end RecordSchema
