import Mathlib.Data.List.Sort
import Mathlib.Data.String.Basic
import RecordSchema.Value.Entries

namespace RecordSchema

/-! Text keys.  A text equals nothing but the same text, so looking one up is exact. -/

/-- Names that are not repeated are in strictly ascending order once they are sorted. -/
theorem ascending_of_nodup {names : List String} (distinct : names.Nodup) :
    (names.mergeSort (fun a b => decide (a ≤ b))).Pairwise (· < ·) := by
  have sorted : (names.mergeSort (fun a b => decide (a ≤ b))).Pairwise (· ≤ ·) :=
    List.pairwise_mergeSort' (· ≤ ·) _
  have nodup := (names.mergeSort_perm (fun a b => decide (a ≤ b))).nodup_iff.mpr distinct
  exact (sorted.and nodup).imp (fun both => lt_of_le_of_ne both.1 both.2)

namespace Value

theorem eqv_text_of_not_text {key : Value} (other : ∀ text, key ≠ .text text)
    (name : String) : key.eqv (.text name) = false := by
  cases key with
  | text text => exact absurd rfl (other text)
  | field field => cases field; rfl
  | _ => rfl

@[simp] theorem eqv_text_right (key : Value) (name : String) :
    key.eqv (.text name) = true ↔ key = .text name := by
  by_cases text : ∃ given, key = .text given
  · obtain ⟨given, rfl⟩ := text
    change decide (given = name) = true ↔ _
    simp
  · have other : ∀ given, key ≠ .text given := fun given same => text ⟨given, same⟩
    simp [eqv_text_of_not_text other name, other name]

@[simp] theorem eqv_text_left (name : String) (key : Value) :
    (Value.text name).eqv key = true ↔ key = .text name := by
  cases key with
  | text given =>
      change decide (name = given) = true ↔ _
      simp [eq_comm]
  | _ => exact ⟨fun equal => absurd equal Bool.false_ne_true, fun same => nomatch same⟩

theorem entries?_eq_some {value : Value} {entries : Entries} :
    value.entries? = some entries ↔ ∃ kind, value = .map kind entries := by
  cases value <;> simp [entries?]

theorem items?_eq_some {value : Value} {items : List Value} :
    value.items? = some items ↔ value = .list items ∨ value = .tuple items := by
  cases value <;> simp [items?]

end Value

namespace Entries

@[simp] theorem get?_nil (name : String) : Entries.get? [] name = none := rfl

@[simp] theorem get?_cons_self (name : String) (item : Value) (rest : Entries) :
    Entries.get? ((.text name, item) :: rest) name = some item := by
  have equal : (Value.text name).eqv (.text name) = true := by simp
  simp only [Entries.get?, Entries.find?, List.find?_cons, equal, Option.map_some]

theorem get?_cons_of_ne {key : Value} {name : String} (differs : key ≠ .text name)
    (item : Value) (rest : Entries) :
    Entries.get? ((key, item) :: rest) name = Entries.get? rest name := by
  have unequal : (Value.text name).eqv key = false := by
    rw [Bool.eq_false_iff]
    intro equal
    exact differs ((Value.eqv_text_left name key).mp equal)
  simp only [Entries.get?, Entries.find?, List.find?_cons, unequal]

theorem contains_iff (entries : Entries) (name : String) :
    entries.contains name = true ↔ ∃ item, entries.get? name = some item := by
  unfold Entries.contains
  rw [Option.isSome_iff_exists]

end Entries

end RecordSchema
