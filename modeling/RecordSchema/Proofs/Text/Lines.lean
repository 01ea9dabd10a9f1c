import Mathlib.Algebra.Order.Ring.Nat
import Mathlib.Data.List.Basic
import RecordSchema.Text.Quoted

namespace RecordSchema

/-! The lines of texts.  Parts that are joined by line breaks are the lines of the whole iff no
part has a break in it; quoted text never has one. -/

namespace Text

/-- The text between the line breaks. -/
def lines (text : String) : List String :=
  (text.toList.splitOn '\n').map String.ofList

def OneLine (text : String) : Prop :=
  '\n' ∉ text.toList

instance (text : String) : Decidable (OneLine text) :=
  inferInstanceAs (Decidable ('\n' ∉ text.toList))

@[simp] theorem oneLine_append {first second : String} :
    OneLine (first ++ second) ↔ OneLine first ∧ OneLine second := by
  simp only [OneLine, String.toList_append, List.mem_append, not_or]

theorem oneLine_intercalate {separator : String} (plain : OneLine separator)
    {parts : List String} :
    OneLine (String.intercalate separator parts) ↔ ∀ part ∈ parts, OneLine part := by
  induction parts with
  | nil => simp [OneLine]
  | cons part rest induction =>
      cases rest with
      | nil => simp
      | cons next others =>
          rw [String.intercalate_cons_cons, oneLine_append, oneLine_append, induction,
            List.forall_mem_cons (a := part)]
          exact and_congr_left (fun _ => and_iff_left plain)

theorem oneLine_toString (number : Nat) : OneLine (toString number) := by
  intro broken
  rw [Nat.toString_eq_repr, Nat.toList_repr] at broken
  exact absurd (Nat.isDigit_of_mem_toDigits (by decide) (by decide) broken) (by decide)

/-! ### Counting lines -/

theorem length_lines (text : String) : (lines text).length = text.toList.count '\n' + 1 := by
  have counted (chars : List Char) :
      (chars.splitOn '\n').length = chars.count '\n' + 1 := by
    induction chars with
    | nil => rfl
    | cons c rest induction =>
        rw [List.splitOn_cons_eq_if_modifyHead, List.count_cons]
        split
        · rw [List.length_cons, induction]
        · rw [List.length_modifyHead, induction, Nat.add_zero]
  rw [lines, List.length_map, counted]

theorem length_lines_intercalate {parts : List String} (filled : parts ≠ []) :
    (lines (String.intercalate "\n" parts)).length =
      parts.length + (parts.map (fun part => part.toList.count '\n')).sum := by
  rw [length_lines]
  induction parts with
  | nil => exact absurd rfl filled
  | cons part rest induction =>
      cases rest with
      | nil => simp [Nat.add_comm]
      | cons next others =>
          have tail := induction (List.cons_ne_nil _ _)
          have one : "\n".toList.count '\n' = 1 := rfl
          rw [String.intercalate_cons_cons, String.toList_append, String.toList_append,
            List.count_append, List.count_append, one, List.length_cons, List.map_cons,
            List.sum_cons]
          omega

theorem length_lines_intercalate_eq_iff {parts : List String} (filled : parts ≠ []) :
    (lines (String.intercalate "\n" parts)).length = parts.length ↔
      ∀ part ∈ parts, OneLine part := by
  rw [length_lines_intercalate filled, Nat.add_eq_left, List.sum_eq_zero_iff_forall_eq_nat]
  simp [OneLine, List.count_eq_zero]

/-- Joined parts are the lines of the whole iff each of them is one line. -/
theorem lines_intercalate_eq_iff {parts : List String} (filled : parts ≠ []) :
    lines (String.intercalate "\n" parts) = parts ↔ ∀ part ∈ parts, OneLine part := by
  constructor
  · intro same
    exact (length_lines_intercalate_eq_iff filled).mp (congrArg List.length same)
  · intro whole
    have apart : ∀ chars ∈ parts.map String.toList, '\n' ∉ chars := by
      simpa [OneLine] using whole
    have filled' : parts.map String.toList ≠ [] := by simpa using filled
    rw [lines, String.toList_intercalate, show "\n".toList = ['\n'] from rfl,
      List.splitOn_intercalate '\n' apart filled']
    simp

end Text

/-! ### Quoted text -/

namespace Quoted

theorem hexDigit_ne_newline {value : Nat} (small : value < 16) : hexDigit value ≠ '\n' := by
  revert value
  decide

theorem newline_not_mem_hex (count code : Nat) : '\n' ∉ hex count code := by
  induction count generalizing code with
  | zero => exact List.not_mem_nil
  | succ count induction =>
      rw [hex, List.mem_append, List.mem_singleton, not_or]
      exact ⟨induction _, (hexDigit_ne_newline (Nat.mod_lt _ (by decide))).symm⟩

theorem newline_not_mem_shortEscape {quote c : Char} (plain : quote ≠ '\n')
    {escaped : List Char} (short : shortEscape? quote c = some escaped) : '\n' ∉ escaped := by
  unfold shortEscape? at short
  split_ifs at short with own <;> cases short
  case pos =>
    have visible : '\n' ≠ c := by
      rcases own with rfl | rfl
      · exact plain.symm
      · decide
    simp [visible]
  all_goals decide

theorem newline_not_mem_escape {quote : Char} (plain : quote ≠ '\n') (c : Char) :
    '\n' ∉ escape quote c := by
  unfold escape
  split
  case h_1 escaped short => exact newline_not_mem_shortEscape plain short
  case h_2 long =>
    -- A newline has a short escape, whatever the quote.
    have other : '\n' ≠ c := by
      rintro rfl
      simp [shortEscape?, plain.symm] at long
    split_ifs <;> simp [other, newline_not_mem_hex]

end Quoted

theorem oneLine_quoted (text : String) : Text.OneLine (quoted text) := by
  have plain : Quoted.quoteFor text.toList ≠ '\n' := by
    unfold Quoted.quoteFor
    split <;> decide
  simp [Text.OneLine, quoted, Quoted.encode, plain.symm, Quoted.newline_not_mem_escape plain]

end RecordSchema
