import RecordSchema.Proofs.Descriptor.Satisfaction
import RecordSchema.Value.Equality

namespace RecordSchema

/-! Equal nodes admit the same values, as far as references do not matter.  They need not
have the same documents: a bound may be spelled as an integer or as a float. -/

def SameBound : Option Number → Option Number → Prop
  | none, none => True
  | some first, some second => first.same second = true
  | _, _ => False

namespace Primitive

theorem same_number_iff {first second : NumberOptions} :
    (number first).same (number second) = true ↔
      first.nullable = second.nullable ∧ SameBound first.minimum second.minimum ∧
        SameBound first.maximum second.maximum := by
  obtain ⟨nullable, minimum, maximum⟩ := first
  obtain ⟨nullable', minimum', maximum'⟩ := second
  cases minimum <;> cases minimum' <;> cases maximum <;> cases maximum' <;>
    simp [same, SameBound, and_assoc]

/-- Primitives that are equal are one and the same, but for the bounds of numbers. -/
theorem eq_or_numbers_of_same {first second : Primitive} (same : first.same second = true) :
    first = second ∨ ∃ a b, first = .number a ∧ second = .number b := by
  cases first with
  | number a =>
      cases second with
      | number b => exact .inr ⟨a, b, rfl, rfl⟩
      | _ => exact absurd same Bool.false_ne_true
  | _ => exact .inl (of_decide_eq_true same)

theorem forall_bound_of_same {first second : Option Number} (same : SameBound first second)
    (keeps : Number → Prop) (respects : ∀ {x y : Number}, x.same y = true → (keeps x ↔ keeps y)) :
    (∀ bound ∈ first, keeps bound) ↔ ∀ bound ∈ second, keeps bound := by
  cases first with
  | none =>
      cases second with
      | none => rfl
      | some bound => exact same.elim
  | some bound =>
      cases second with
      | none => exact same.elim
      | some other => simpa using respects same

theorem admits_iff_of_same {first second : Primitive} (same : first.same second = true)
    (value : Value) : first.Admits value ↔ second.Admits value := by
  obtain rfl | ⟨a, b, rfl, rfl⟩ := eq_or_numbers_of_same same
  · rfl
  · obtain ⟨nullable, minimum, maximum⟩ := same_number_iff.mp same
    have above := forall_bound_of_same minimum
      (fun bound => ∀ number, value = .number number → ¬ number.Below bound)
      (fun equal => by simp only [Number.below_congr_right equal])
    have below := forall_bound_of_same maximum
      (fun bound => ∀ number, value = .number number → ¬ bound.Below number)
      (fun equal => by simp only [Number.below_congr_left equal])
    rw [admits_iff, admits_iff]
    refine and_congr ?_ (and_congr above (and_congr below Iff.rfl))
    simp only [kind, Primitive.nullable, nullable]

end Primitive

theorem sameFields_keys {first second : List Field} (same : sameFields first second = true) :
    first.map (fun field => (field.wireKey, field.optional)) =
      second.map (fun field => (field.wireKey, field.optional)) := by
  induction first generalizing second with
  | nil =>
      cases second with
      | nil => rfl
      | cons other others => simp [sameFields] at same
  | cons field rest induction =>
      obtain ⟨name, descriptor, optional, key⟩ := field
      cases second with
      | nil => simp [sameFields] at same
      | cons other others =>
          obtain ⟨name', descriptor', optional', key'⟩ := other
          simp only [sameFields, Bool.and_eq_true, decide_eq_true_eq] at same
          obtain ⟨⟨⟨⟨rfl, rfl⟩, rfl⟩, _⟩, tail⟩ := same
          rw [List.map_cons, List.map_cons, induction tail]
          rfl

theorem exists_field_iff_of_same {first second : List Field}
    (same : sameFields first second = true) (keeps : String × Bool → Prop) :
    (∃ field ∈ first, keeps (field.wireKey, field.optional)) ↔
      ∃ field ∈ second, keeps (field.wireKey, field.optional) := by
  have keys := congrArg (fun pairs => ∃ pair ∈ pairs, keeps pair) (sameFields_keys same)
  simpa using keys

variable {truth : Prop}

mutual
theorem Descriptor.admits_iff_of_same :
    (first : Descriptor) → {second : Descriptor} → first.same second = true →
      (value : Value) →
        (first.Admits (fun _ _ _ => truth) value ↔ second.Admits (fun _ _ _ => truth) value)
  | .primitive a, .primitive b, same, value => Primitive.admits_iff_of_same same value
  | .mapping fields nullable, .mapping others nullable', same, value => by
      simp only [Descriptor.same, Bool.and_eq_true, decide_eq_true_eq] at same
      obtain ⟨rfl, parts⟩ := same
      have declared (key : Value) :
          (∃ field ∈ fields, key = .text field.wireKey) ↔
            ∃ field ∈ others, key = .text field.wireKey :=
        exists_field_iff_of_same parts (fun pair => key = .text pair.1)
      have present (entries : Entries) :
          (∀ field ∈ fields, field.optional = false →
              ∃ item, entries.get? field.wireKey = some item) ↔
            ∀ field ∈ others, field.optional = false →
              ∃ item, entries.get? field.wireKey = some item := by
        have absent := exists_field_iff_of_same parts
          (fun pair => pair.2 = false ∧ ¬ ∃ item, entries.get? pair.1 = some item)
        simpa using not_congr absent
      simp only [Descriptor.Admits, declared, present,
        fieldsAdmit_iff_of_same _ fields parts]
  | .array element options, .array other options', same, value => by
      simp only [Descriptor.same, Bool.and_eq_true, decide_eq_true_eq] at same
      obtain ⟨rfl, inner⟩ := same
      simp only [Descriptor.Admits, element.admits_iff_of_same inner]
  | .ref _ _, .ref _ _, _, _ => Iff.rfl
  | .foreign _, .foreign _, _, _ => Iff.rfl
termination_by structural first => first

theorem fieldsAdmit_iff_of_same (entries : Entries) :
    (first : List Field) → {second : List Field} → sameFields first second = true →
      (fieldsAdmit (fun _ _ _ => truth) first entries ↔
        fieldsAdmit (fun _ _ _ => truth) second entries)
  | [], [], _ => Iff.rfl
  | ⟨name, descriptor, optional, key⟩ :: rest, ⟨_, _, _, _⟩ :: others, same => by
      simp only [sameFields, Bool.and_eq_true, decide_eq_true_eq] at same
      obtain ⟨⟨⟨⟨rfl, rfl⟩, rfl⟩, inner⟩, tail⟩ := same
      simp only [fieldsAdmit, descriptor.admits_iff_of_same inner,
        fieldsAdmit_iff_of_same entries rest tail]
termination_by structural first => first
end

/-! ### Nodes without references -/

mutual
theorem Descriptor.providerFree_of_same :
    (first : Descriptor) → {second : Descriptor} → first.same second = true →
      second.ProviderFree → first.ProviderFree
  | .primitive _, .primitive _, _, _ => trivial
  | .mapping fields _, .mapping others _, same, free => by
      simp only [Descriptor.same, Bool.and_eq_true] at same
      exact fieldsProviderFree_of_same fields same.2 free
  | .array element _, .array other _, same, free => by
      simp only [Descriptor.same, Bool.and_eq_true] at same
      exact element.providerFree_of_same same.2 free
  | .ref _ _, .ref _ _, _, free => free.elim
  | .foreign _, .foreign _, _, free => free.elim
termination_by structural first => first

theorem fieldsProviderFree_of_same :
    (first : List Field) → {second : List Field} → sameFields first second = true →
      fieldsProviderFree second → fieldsProviderFree first
  | [], [], _, _ => trivial
  | ⟨_, descriptor, _, _⟩ :: rest, ⟨_, _, _, _⟩ :: others, same, free => by
      simp only [sameFields, Bool.and_eq_true] at same
      exact ⟨descriptor.providerFree_of_same same.1.2 free.1,
        fieldsProviderFree_of_same rest same.2 free.2⟩
termination_by structural first => first
end

mutual
theorem Descriptor.hashable_of_providerFree :
    (node : Descriptor) → node.ProviderFree → node.hashable = true
  | .primitive _, _ => rfl
  | .mapping fields _, free => allFieldsHashable_of_providerFree fields free
  | .array element _, free => element.hashable_of_providerFree free
termination_by structural node => node

theorem allFieldsHashable_of_providerFree :
    (fields : List Field) → fieldsProviderFree fields → allFieldsHashable fields = true
  | [], _ => rfl
  | ⟨_, descriptor, _, _⟩ :: rest, free => by
      rw [allFieldsHashable, descriptor.hashable_of_providerFree free.1,
        allFieldsHashable_of_providerFree rest free.2]
      rfl
termination_by structural fields => fields
end

end RecordSchema
