import Mathlib.Algebra.Order.Ring.Nat
import Mathlib.Data.List.Basic
import RecordSchema.Value.Printing

namespace RecordSchema

/-! The order of decimal texts.  Texts are compared from the left, so a number and a larger one
are in order iff the smaller one does not pass the larger one when zeros fill it up to as many
digits. -/

namespace Digits

def count (number : Nat) : Nat :=
  (toString number).length

theorem count_eq (number : Nat) : count number = (Nat.toDigits 10 number).length := by
  rw [count, Nat.toString_eq_ofList_toDigits, String.length_ofList]

theorem toDigits_of_ge {number : Nat} (large : 10 ≤ number) :
    Nat.toDigits 10 number = Nat.toDigits 10 (number / 10) ++ [(number % 10).digitChar] :=
  Nat.toDigits_of_base_le (by decide) large

theorem count_of_ge {number : Nat} (large : 10 ≤ number) :
    count number = count (number / 10) + 1 := by
  rw [count_eq, count_eq, toDigits_of_ge large, List.length_append, List.length_singleton]

theorem count_of_lt {number : Nat} (small : number < 10) : count number = 1 := by
  rw [count_eq, Nat.toDigits_of_lt_base small, List.length_singleton]

theorem count_pos (number : Nat) : 0 < count number := by
  rw [count_eq]
  exact Nat.length_toDigits_pos

theorem ge_of_count {number : Nat} (many : 1 < count number) : 10 ≤ number := by
  by_contra small
  rw [count_of_lt (by omega)] at many
  omega

theorem count_mono {first second : Nat} (order : first ≤ second) : count first ≤ count second := by
  have fits (number : Nat) : count number ≤ count second ↔ number < 10 ^ count second := by
    rw [count_eq number]
    exact Nat.length_toDigits_le_iff (by decide) (count_pos second)
  exact (fits first).mpr (Nat.lt_of_le_of_lt order ((fits second).mp (Nat.le_refl _)))

/-! ### Texts with a digit appended -/

section Append

variable {first second : List Char} {c d : Char}

theorem append_lt_append (same : first.length = second.length) :
    first ++ [c] < second ++ [d] ↔ first < second ∨ first = second ∧ c < d := by
  induction first generalizing second with
  | nil =>
      obtain rfl := List.length_eq_zero_iff.mp same.symm
      simp [List.cons_lt_cons_iff]
  | cons a rest induction =>
      cases second with
      | nil => exact absurd same (Nat.succ_ne_zero _)
      | cons b others =>
          simp only [List.cons_append, List.cons_lt_cons_iff,
            induction (Nat.succ.inj same), List.cons.injEq]
          tauto

theorem lt_append (shorter : first.length ≤ second.length) :
    first < second ++ [d] ↔ first < second ∨ first = second := by
  induction first generalizing second with
  | nil => cases second <;> simp
  | cons a rest induction =>
      cases second with
      | nil => exact absurd shorter (Nat.not_succ_le_zero _)
      | cons b others =>
          simp only [List.cons_append, List.cons_lt_cons_iff,
            induction (Nat.le_of_succ_le_succ shorter), List.cons.injEq]
          tauto

end Append

theorem digitChar_lt_digitChar {first second : Nat} (small : first < 10) (other : second < 10) :
    first.digitChar < second.digitChar ↔ first < second := by
  rw [Char.lt_def, UInt32.lt_iff_toNat_lt]
  change first.digitChar.toNat < second.digitChar.toNat ↔ _
  rw [Nat.toNat_digitChar_of_lt_ten small, Nat.toNat_digitChar_of_lt_ten other]
  omega

theorem toDigits_inj {first second : Nat} :
    Nat.toDigits 10 first = Nat.toDigits 10 second ↔ first = second := by
  refine ⟨fun same => ?_, fun same => by rw [same]⟩
  rw [← Nat.ofDigitChars_ten_toDigits (n := first), same, Nat.ofDigitChars_ten_toDigits]

/-! ### The order of numbers -/

theorem toDigits_lt_of_count_eq {first second : Nat} (same : count first = count second) :
    Nat.toDigits 10 first < Nat.toDigits 10 second ↔ first < second := by
  induction first using Nat.strongRecOn generalizing second with
  | ind first induction =>
      by_cases large : 10 ≤ first
      · have above : 10 ≤ second := by
          refine ge_of_count ?_
          rw [← same, count_of_ge large]
          exact Nat.lt_add_of_pos_left (count_pos _)
        have shorter : count (first / 10) = count (second / 10) := by
          rw [count_of_ge large, count_of_ge above] at same
          exact Nat.succ.inj same
        have lengths := shorter
        rw [count_eq, count_eq] at lengths
        rw [toDigits_of_ge large, toDigits_of_ge above, append_lt_append lengths,
          induction _ (by omega) shorter, toDigits_inj,
          digitChar_lt_digitChar (Nat.mod_lt _ (by decide)) (Nat.mod_lt _ (by decide))]
        omega
      · have below : second < 10 := by
          by_contra large'
          have counted := count_of_ge (Nat.not_lt.mp large')
          rw [← same, count_of_lt (Nat.not_le.mp large)] at counted
          have := count_pos (second / 10)
          omega
        rw [Nat.toDigits_of_lt_base (Nat.not_le.mp large), Nat.toDigits_of_lt_base below,
          List.cons_lt_cons_iff, digitChar_lt_digitChar (Nat.not_le.mp large) below]
        simp

/-- A longer text loses its last digits until the two are of one length. -/
theorem toDigits_lt_of_count_lt {first second : Nat} (shorter : count first < count second) :
    Nat.toDigits 10 first < Nat.toDigits 10 second ↔
      first * 10 ^ (count second - count first) ≤ second := by
  induction second using Nat.strongRecOn with
  | ind second induction =>
      have large : 10 ≤ second := ge_of_count (Nat.lt_of_le_of_lt (count_pos first) shorter)
      have counted := count_of_ge large
      have most : count first ≤ count (second / 10) := by omega
      have lengths := most
      rw [count_eq, count_eq] at lengths
      rw [toDigits_of_ge large, lt_append lengths, toDigits_inj]
      rcases Nat.eq_or_lt_of_le most with level | further
      · have one : count second - count first = 1 := by omega
        rw [toDigits_lt_of_count_eq level, one, Nat.pow_one, ← Nat.le_div_iff_mul_le (by decide)]
        omega
      · have unequal : first ≠ second / 10 := fun same => Nat.ne_of_lt further (congrArg count same)
        have split : count second - count first = count (second / 10) - count first + 1 := by omega
        rw [induction _ (by omega) further, or_iff_left unequal, split, Nat.pow_succ,
          ← Nat.mul_assoc, ← Nat.le_div_iff_mul_le (show 0 < 10 by decide)]

/-- The text of a number comes before that of a larger one iff the number, filled up with zeros
to as many digits, is at most the larger one. -/
theorem toString_lt_iff {first second : Nat} (less : first < second) :
    toString first < toString second ↔
      first * 10 ^ (count second - count first) ≤ second := by
  rw [String.lt_iff, Nat.toString_eq_repr, Nat.toString_eq_repr, Nat.toList_repr, Nat.toList_repr]
  rcases Nat.eq_or_lt_of_le (count_mono (Nat.le_of_lt less)) with level | shorter
  · rw [toDigits_lt_of_count_eq level, level, Nat.sub_self, Nat.pow_zero, Nat.mul_one]
    exact iff_of_true less (Nat.le_of_lt less)
  · exact toDigits_lt_of_count_lt shorter

theorem toString_inj {first second : Nat} : toString first = toString second ↔ first = second := by
  rw [Nat.toString_eq_ofList_toDigits, Nat.toString_eq_ofList_toDigits, String.ofList_inj,
    toDigits_inj]

end Digits

end RecordSchema
