import Mathlib.Data.List.Nodup
import RecordSchema.Descriptor.Building
import RecordSchema.Proofs.Descriptor.Satisfaction
import RecordSchema.Proofs.Value.Parts

namespace RecordSchema

/-! Trees in which a mapping shares neither the name nor the key of a field among its
fields, as the checks of the constructors ask. -/

mutual
def Descriptor.Checked : Descriptor → Prop
  | .primitive _ => True
  | .mapping fields _ =>
      (fields.map Field.name).Nodup ∧ (fields.map Field.wireKey).Nodup ∧ fieldsChecked fields
  | .array element _ => element.Checked
  | .ref _ _ => True
  | .foreign _ => False
termination_by structural node => node

def fieldsChecked : List Field → Prop
  | [] => True
  | ⟨_, descriptor, _, _⟩ :: rest => descriptor.Checked ∧ fieldsChecked rest
termination_by structural fields => fields
end

theorem fieldsChecked_iff {fields : List Field} :
    fieldsChecked fields ↔ ∀ field ∈ fields, field.descriptor.Checked :=
  forall_mem_of_clauses fieldsChecked trivial (fun ⟨_, _, _, _⟩ _ => .rfl)

theorem repeatedNames_eq_nil {names : List String} : repeatedNames names = [] ↔ names.Nodup := by
  unfold repeatedNames
  rw [← List.length_eq_zero_iff, List.length_mergeSort, List.length_eq_zero_iff,
    List.filter_eq_nil_iff, List.nodup_iff_count_le_one]
  constructor
  · intro single name
    by_cases member : name ∈ names
    · simpa using single name (List.mem_eraseDups.mpr member)
    · simp [List.count_eq_zero_of_not_mem member]
  · intro single name _
    simpa using single name

theorem Descriptor.clashes_eq_nil {fields : List Field} :
    clashes fields = [] ↔
      (fields.map Field.name).Nodup ∧ (fields.map Field.wireKey).Nodup := by
  rw [← repeatedNames_eq_nil, ← repeatedNames_eq_nil]
  unfold clashes
  cases repeatedNames (fields.map Field.name) <;>
    cases repeatedNames (fields.map Field.wireKey) <;> simp

mutual
/-- Induction over a checked tree without references. -/
theorem Descriptor.checked_induction {motive : Descriptor → Prop}
    (primitive : ∀ options, motive (.primitive options))
    (mapping : ∀ fields nullable, (fields.map Field.name).Nodup →
      (fields.map Field.wireKey).Nodup → (∀ field ∈ fields, motive field.descriptor) →
        motive (.mapping fields nullable))
    (array : ∀ element options, motive element → motive (.array element options)) :
    (node : Descriptor) → node.ProviderFree → node.Checked → motive node
  | .primitive options, _, _ => primitive options
  | .mapping fields nullable, free, ⟨names, keys, inside⟩ =>
      mapping fields nullable names keys
        (fields_checked_induction primitive mapping array fields free inside)
  | .array element options, free, checked =>
      array element options (element.checked_induction primitive mapping array free checked)
termination_by structural node => node

theorem fields_checked_induction {motive : Descriptor → Prop}
    (primitive : ∀ options, motive (.primitive options))
    (mapping : ∀ fields nullable, (fields.map Field.name).Nodup →
      (fields.map Field.wireKey).Nodup → (∀ field ∈ fields, motive field.descriptor) →
        motive (.mapping fields nullable))
    (array : ∀ element options, motive element → motive (.array element options)) :
    (fields : List Field) → fieldsProviderFree fields → fieldsChecked fields →
      ∀ field ∈ fields, motive field.descriptor
  | [], _, _ => nofun
  | ⟨_, descriptor, _, _⟩ :: rest, free, checked =>
      List.forall_mem_cons.mpr
        ⟨descriptor.checked_induction primitive mapping array free.1 checked.1,
          fields_checked_induction primitive mapping array rest free.2 checked.2⟩
termination_by structural fields => fields
end

end RecordSchema
