import RecordSchema.Number.Binary64

namespace RecordSchema

/-!
Reading decimal text.  `Binary64.ofText?` reads a sign, digits with an optional
point, and an optional exponent, and rounds the exact decimal once.
-/

def digitValue? (c : Char) : Option Nat :=
  if c.isDigit then some (c.toNat - '0'.toNat) else none

def ofDigits (digits : List Char) : Nat :=
  digits.foldl (fun value c => 10 * value + (c.toNat - '0'.toNat)) 0

def signedDigits? (chars : List Char) : Option Int :=
  let body := match chars with
    | '+' :: rest => rest
    | '-' :: rest => rest
    | rest => rest
  if body.isEmpty || !body.all Char.isDigit then none
  else some (if chars.head? = some '-' then -(ofDigits body : Int) else ofDigits body)

namespace Binary64

/-- The number nearest to `± digits · 10 ^ exponent`.  Exponents out of any finite
range are cut short, so that their powers need not be computed. -/
def ofDecimal (negative : Bool) (digits : Nat) (exponent : Int) : Binary64 :=
  if digits = 0 then zero negative
  else if 400 < exponent then .infinite negative
  else if exponent + (digits.log2 : Int) < -1100 then zero negative
  else if 0 ≤ exponent then ofRatio negative (digits * Nat.pow 10 exponent.toNat) 1
  else ofRatio negative digits (Nat.pow 10 (-exponent).toNat)

/-- The number that unsigned decimal text denotes: digits with at most one point,
at least one digit, and an optional exponent. -/
def ofUnsigned? (negative : Bool) (chars : List Char) : Option Binary64 :=
  let whole := chars.takeWhile Char.isDigit
  let afterWhole := chars.dropWhile Char.isDigit
  let (fraction, afterFraction) := match afterWhole with
    | '.' :: rest => (rest.takeWhile Char.isDigit, rest.dropWhile Char.isDigit)
    | rest => ([], rest)
  let digits := whole ++ fraction
  if digits.isEmpty then none
  else
    let finish (exponent : Int) :=
      ofDecimal negative (ofDigits digits) (exponent - fraction.length)
    match afterFraction with
    | [] => some (finish 0)
    | c :: rest =>
      if c = 'e' ∨ c = 'E' then (signedDigits? rest).map finish else none

/-- Reads decimal text with an optional sign; `inf` and `nan` in any case. -/
def ofText? (text : String) : Option Binary64 :=
  let chars := text.toList
  let negative := chars.head? = some '-'
  let body := match chars with
    | '+' :: rest => rest
    | '-' :: rest => rest
    | rest => rest
  let lower := String.ofList (body.map Char.toLower)
  if lower = "inf" ∨ lower = "infinity" then some (.infinite negative)
  else if lower = "nan" then some (.nan 0)
  else ofUnsigned? negative body

end Binary64

end RecordSchema
