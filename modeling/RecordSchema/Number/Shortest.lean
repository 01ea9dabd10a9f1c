import RecordSchema.Number.Binary64

namespace RecordSchema

/-!
The shortest decimal text of a binary64 number: the fewest digits that read back
as the number and, among those, the digits nearest to it.
-/

namespace Binary64

/-- The reals that round to a positive finite number, times a power of two: bounds and
value over one denominator.  The bounds belong to the interval iff `closed`. -/
structure Interval where
  lower : Nat
  value : Nat
  upper : Nat
  denominator : Nat
  closed : Bool

/-- The interval of reals that round to `significand · 2 ^ exponent`.  Below a power
of two the numbers lie twice as dense. -/
def interval (significand : Nat) (exponent : Int) : Interval :=
  let below := if significand = hiddenBit ∧ leastExponent < exponent then 1 else 2
  let up := (exponent - 2).toNat
  let down := (2 - exponent).toNat
  { lower := (4 * significand - below) * Nat.pow 2 up
    value := 4 * significand * Nat.pow 2 up
    upper := (4 * significand + 2) * Nat.pow 2 up
    denominator := Nat.pow 2 down
    closed := significand % 2 = 0 }

def Interval.admits (i : Interval) (digits : Nat) (scale : Int) : Bool :=
  let point := digits * Nat.pow 10 scale.toNat * i.denominator
  let lower := i.lower * Nat.pow 10 (-scale).toNat
  let upper := i.upper * Nat.pow 10 (-scale).toNat
  if i.closed then lower ≤ point && point ≤ upper else lower < point && point < upper

def places (numerator denominator : Nat) : Int :=
  let reaches (p : Int) : Bool :=
    denominator * Nat.pow 10 p.toNat ≤ numerator * Nat.pow 10 (-p).toNat
  let estimate : Int := (((numerator.log2 : Int) - denominator.log2) * 30103) / 100000 - 1
  let step (p : Int) : Int := if reaches p then p + 1 else p
  step (step (step (step estimate)))

def Interval.nearest? (i : Interval) (scale : Int) : Option Nat :=
  let point := i.value * Nat.pow 10 (-scale).toNat
  let unit := i.denominator * Nat.pow 10 scale.toNat
  let floor := point / unit
  let low := i.admits floor scale && floor != 0
  let high := i.admits (floor + 1) scale
  match low, high with
  | false, false => none
  | true, false => some floor
  | false, true => some (floor + 1)
  | true, true => some (divideToEven point unit)

def Interval.search (i : Interval) (places : Int) : Nat → Nat → Nat × Int
  | 0, count => (0, places - count)
  | fuel + 1, count =>
    match i.nearest? (places - count) with
    | some digits => (digits, places - count)
    | none => i.search places fuel (count + 1)

def shortest (significand : Nat) (exponent : Int) : Nat × Int :=
  let i := interval significand exponent
  i.search (places i.value i.denominator) 18 1

/-- How floats are written: positionally while the point stands within the given
places, else with an exponent of at least two digits. -/
structure FloatStyle where
  leastPlaces : Int
  mostPlaces : Int

def FloatStyle.standard : FloatStyle := ⟨-3, 16⟩

def zeros (count : Nat) : String := String.ofList (List.replicate count '0')

def exponentText (exponent : Int) : String :=
  let digits := toString exponent.natAbs
  (if exponent < 0 then "e-" else "e+") ++ (if exponent.natAbs < 10 then "0" ++ digits else digits)

def FloatStyle.write (style : FloatStyle) (digits : List Char) (places : Int) : String :=
  let count : Int := digits.length
  if places < style.leastPlaces ∨ style.mostPlaces < places then
    let fraction := digits.drop 1
    String.ofList (digits.take 1)
      ++ (if fraction.isEmpty then "" else "." ++ String.ofList fraction)
      ++ exponentText (places - 1)
  else if places ≤ 0 then
    "0." ++ zeros (-places).toNat ++ String.ofList digits
  else if count ≤ places then
    String.ofList digits ++ zeros (places - count).toNat ++ ".0"
  else
    String.ofList (digits.take places.toNat) ++ "." ++ String.ofList (digits.drop places.toNat)

def trimZeros (digits : List Char) : List Char :=
  (digits.reverse.dropWhile (· = '0')).reverse

def text (x : Binary64) : String :=
  match x with
  | .nan _ => "nan"
  | .infinite negative => if negative then "-inf" else "inf"
  | .finite negative significand exponent =>
    let sign := if negative then "-" else ""
    if significand = 0 then sign ++ "0.0"
    else
      let (digits, scale) := shortest significand exponent
      let chars := (toString digits).toList
      sign ++ FloatStyle.standard.write (trimZeros chars) (chars.length + scale)

end Binary64

end RecordSchema
