import Mathlib.Algebra.Order.Field.Basic
import Mathlib.Algebra.Order.Ring.Rat
import Mathlib.Order.WithBot
import RecordSchema.Number.Basic

namespace RecordSchema

namespace Binary64

theorem ratio?_denominator_pos {x : Binary64} {numerator : Int} {denominator : Nat}
    (ratio : x.ratio? = some (numerator, denominator)) : 0 < denominator := by
  cases x with
  | infinite negative => simp [ratio?] at ratio
  | nan label => simp [ratio?] at ratio
  | finite negative significand exponent =>
      simp only [ratio?, Option.some.injEq] at ratio
      split at ratio
      · cases ratio
        exact Nat.one_pos
      · cases ratio
        exact Nat.pow_pos (by omega)

end Binary64

namespace Number

def point (value : ℚ) : WithBot (WithTop ℚ) :=
  WithBot.some (WithTop.some value)

@[simp] theorem point_inj {a b : ℚ} : point a = point b ↔ a = b := by
  simp [point]

@[simp] theorem point_lt_point {a b : ℚ} : point a < point b ↔ a < b := by
  simp [point]

@[simp] theorem bot_lt_point (a : ℚ) : ⊥ < point a :=
  WithBot.bot_lt_coe _

@[simp] theorem point_lt_top (a : ℚ) : point a < ⊤ :=
  WithBot.coe_lt_coe.mpr (WithTop.coe_lt_top a)

/-- The exact value on the extended rational line; none for a number that is none. -/
def value? : Number → Option (WithBot (WithTop ℚ))
  | .int value => some (point value)
  | .float (.infinite true) => some ⊥
  | .float (.infinite false) => some ⊤
  | .float (.nan _) => none
  | .float (.finite negative significand exponent) =>
      (Binary64.ratio? (.finite negative significand exponent)).map
        (fun ratio => point (ratio.1 / ratio.2))

def Below (x y : Number) : Prop :=
  ∃ a ∈ x.value?, ∃ b ∈ y.value?, a < b

theorem ratio?_denominator_pos {x : Number} {numerator : Int} {denominator : Nat}
    (ratio : x.ratio? = some (numerator, denominator)) : 0 < denominator := by
  cases x with
  | int value =>
      cases ratio
      exact Nat.one_pos
  | float value => exact Binary64.ratio?_denominator_pos ratio

theorem value?_of_ratio? {x : Number} {numerator : Int} {denominator : Nat}
    (ratio : x.ratio? = some (numerator, denominator)) :
    x.value? = some (point (numerator / denominator)) := by
  cases x with
  | int value =>
      cases ratio
      simp [value?]
  | float value =>
      cases value with
      | infinite negative => simp [Number.ratio?, Binary64.ratio?] at ratio
      | nan label => simp [Number.ratio?, Binary64.ratio?] at ratio
      | finite negative significand exponent =>
          change Binary64.ratio? (.finite negative significand exponent) = _ at ratio
          simp only [value?, ratio, Option.map_some]

theorem infinite_or_nan_of_ratio? {x : Number} (ratio : x.ratio? = none) :
    (∃ negative, x = .float (.infinite negative)) ∨ ∃ label, x = .float (.nan label) := by
  cases x with
  | int value => simp [Number.ratio?] at ratio
  | float value =>
      cases value with
      | infinite negative => exact .inl ⟨negative, rfl⟩
      | nan label => exact .inr ⟨label, rfl⟩
      | finite negative significand exponent =>
          simp [Number.ratio?, Binary64.ratio?] at ratio

private theorem ratio_lt_iff (a c : Int) {b d : Nat} (hb : 0 < b) (hd : 0 < d) :
    (a : ℚ) / b < c / d ↔ a * d < c * b := by
  have hb' : (0 : ℚ) < b := by exact_mod_cast hb
  have hd' : (0 : ℚ) < d := by exact_mod_cast hd
  rw [div_lt_div_iff₀ hb' hd']
  exact_mod_cast Iff.rfl

private theorem ratio_eq_iff (a c : Int) {b d : Nat} (hb : 0 < b) (hd : 0 < d) :
    (a : ℚ) / b = c / d ↔ a * d = c * b := by
  have hb' : (b : ℚ) ≠ 0 := by exact_mod_cast hb.ne'
  have hd' : (d : ℚ) ≠ 0 := by exact_mod_cast hd.ne'
  rw [div_eq_div_iff hb' hd']
  exact_mod_cast Iff.rfl

theorem lt_iff_below (x y : Number) : x.lt y = true ↔ x.Below y := by
  unfold lt Below
  cases hx : x.ratio? with
  | some first =>
      cases hy : y.ratio? with
      | some second =>
          have hb := ratio?_denominator_pos hx
          have hd := ratio?_denominator_pos hy
          simp [value?_of_ratio? hx, value?_of_ratio? hy, ratio_lt_iff _ _ hb hd]
      | none =>
          rw [value?_of_ratio? hx]
          obtain ⟨negative, rfl⟩ | ⟨label, rfl⟩ := infinite_or_nan_of_ratio? hy
          · cases negative <;> simp [value?]
          · simp [value?]
  | none =>
      obtain ⟨negative, rfl⟩ | ⟨label, rfl⟩ := infinite_or_nan_of_ratio? hx
      · cases hy : y.ratio? with
        | some second =>
            rw [value?_of_ratio? hy]
            cases negative <;> simp [value?]
        | none =>
            obtain ⟨other, rfl⟩ | ⟨label, rfl⟩ := infinite_or_nan_of_ratio? hy
            · cases negative <;> cases other <;> simp [value?]
            · cases negative <;> simp [value?]
      · cases hy : y.ratio? with
        | some second => simp [value?]
        | none => simp [value?]

theorem value?_eq_of_same {x y : Number} (same : x.same y = true) : x.value? = y.value? := by
  unfold Number.same at same
  cases hx : x.ratio? with
  | some first =>
      cases hy : y.ratio? with
      | none => simp [hx, hy] at same
      | some second =>
          have cross : first.1 * second.2 = second.1 * first.2 := by
            simpa [hx, hy] using same
          rw [value?_of_ratio? hx, value?_of_ratio? hy,
            (ratio_eq_iff _ _ (ratio?_denominator_pos hx) (ratio?_denominator_pos hy)).mpr cross]
  | none =>
      cases hy : y.ratio? with
      | some second => simp [hx, hy] at same
      | none =>
          have equal : x = y := by simpa [hx, hy] using same
          rw [equal]

theorem same_self (x : Number) : x.same x = true := by
  unfold same
  cases hx : x.ratio? <;> simp

theorem value?_ne_point {x : Number} (ratio : x.ratio? = none) (value : ℚ) :
    x.value? ≠ some (point value) := by
  obtain ⟨negative, rfl⟩ | ⟨label, rfl⟩ := infinite_or_nan_of_ratio? ratio
  · cases negative <;> simp [value?, point]
  · simp [value?]

/-- Numbers are equal iff they are one and the same or have one exact value. -/
theorem same_iff {x y : Number} :
    x.same y = true ↔ x = y ∨ ∃ value, x.value? = some value ∧ y.value? = some value := by
  constructor
  · intro equal
    cases hx : x.ratio? with
    | some first =>
        have known := value?_of_ratio? hx
        exact .inr ⟨_, known, (value?_eq_of_same equal).symm.trans known⟩
    | none =>
        cases hy : y.ratio? with
        | some second => simp [same, hx, hy] at equal
        | none => exact .inl (by simpa [same, hx, hy] using equal)
  · rintro (rfl | ⟨value, first, second⟩)
    · exact same_self x
    have values : x.value? = y.value? := first.trans second.symm
    cases hx : x.ratio? with
    | some left =>
        rw [value?_of_ratio? hx] at values
        cases hy : y.ratio? with
        | some right =>
            rw [value?_of_ratio? hy, Option.some.injEq, point_inj, ratio_eq_iff _ _
              (ratio?_denominator_pos hx) (ratio?_denominator_pos hy)] at values
            simpa [same, hx, hy] using values
        | none => exact absurd values.symm (value?_ne_point hy _)
    | none =>
        cases hy : y.ratio? with
        | some right =>
            rw [value?_of_ratio? hy] at values
            exact absurd values (value?_ne_point hx _)
        | none =>
            -- Neither is none, since both have a value, so both are infinite.
            obtain ⟨negative, rfl⟩ | ⟨label, rfl⟩ := infinite_or_nan_of_ratio? hx
            · obtain ⟨other, rfl⟩ | ⟨label, rfl⟩ := infinite_or_nan_of_ratio? hy
              · have sign : negative = other := by
                  cases negative <;> cases other <;> simp [value?] at values ⊢
                rw [sign]
                exact same_self _
              · exact nomatch second
            · exact nomatch first

theorem same_int_iff {x : Number} {m : Int} :
    x.same (.int m) = true ↔ x.value? = (Number.int m).value? :=
  ⟨value?_eq_of_same, fun equal => same_iff.mpr (.inr ⟨point m, equal, rfl⟩)⟩

/-- Equal numbers are equal to the same numbers. -/
theorem same_congr {x y : Number} (equal : x.same y = true) (z : Number) :
    x.same z = y.same z := by
  rw [Bool.eq_iff_iff, same_iff, same_iff]
  rcases same_iff.mp equal with rfl | ⟨value, first, second⟩
  · rfl
  · constructor
    · rintro (rfl | ⟨other, left, right⟩)
      · exact .inr ⟨value, second, first⟩
      · exact .inr ⟨value, second, right.trans (left.symm.trans first)⟩
    · rintro (rfl | ⟨other, left, right⟩)
      · exact .inr ⟨value, first, second⟩
      · exact .inr ⟨value, first, right.trans (left.symm.trans second)⟩

theorem below_congr_right {x y z : Number} (same : y.same z = true) :
    x.Below y ↔ x.Below z := by
  unfold Below
  rw [value?_eq_of_same same]

theorem below_congr_left {x y z : Number} (same : x.same y = true) :
    x.Below z ↔ y.Below z := by
  unfold Below
  rw [value?_eq_of_same same]

end Number

end RecordSchema
