import RecordSchema.Proofs.Number.Order
import RecordSchema.Value.Entries

namespace RecordSchema

/-! What a descriptor says of a value, by recursion on the descriptor and without its
document.  `refs` says what a reference admits. -/

namespace Value

/-- A dictionary with the given entries; read-only mappings are none. -/
def IsDict (value : Value) (entries : Entries) : Prop :=
  value = .map .plain entries ∨ value = .map .record entries

/-- Equality with a member of an enumeration.  A truth value equals no number. -/
def EqualsMember : Value → Value → Prop
  | .number value, .number member => value.value? = member.value?
  | .text value, .text member => value = member
  | _, _ => False

end Value

def Kind.Holds : Kind → Value → Prop
  | .boolean, value => ∃ truth, value = .bool truth
  | .integer, value => ∃ number : Number, value = .number number ∧ number.isIntegral = true
  | .number, value => ∃ number, value = .number number
  | .null, value => value = .null
  | .string, value => ∃ text, value = .text text
  | .any, value =>
      value = .null ∨ (∃ truth, value = .bool truth) ∨ (∃ number, value = .number number) ∨
        (∃ text, value = .text text) ∨ (∃ items, value = .list items) ∨
        ∃ entries, value.IsDict entries

namespace Primitive

def minimum : Primitive → Option Number
  | .integer options => options.minimum.map Number.int
  | .number options => options.minimum
  | _ => none

def maximum : Primitive → Option Number
  | .integer options => options.maximum.map Number.int
  | .number options => options.maximum
  | _ => none

def minLength : Primitive → Option Nat
  | .string options => options.minLength
  | _ => none

def maxLength : Primitive → Option Nat
  | .string options => options.maxLength
  | _ => none

def members : Primitive → List Value
  | .integer options => (options.enum.getD []).map Value.int
  | .string options => (options.enum.getD []).map Value.text
  | _ => []

def format : Primitive → Option Format
  | .string options => options.format
  | _ => none

/-- A value of the kind, or null where it is admitted, that keeps to every option. -/
structure Admits (options : Primitive) (value : Value) : Prop where
  kind : options.kind.Holds value ∨ value = .null ∧ options.nullable = true
  above : ∀ bound ∈ options.minimum, ∀ number, value = .number number → ¬ number.Below bound
  below : ∀ bound ∈ options.maximum, ∀ number, value = .number number → ¬ bound.Below number
  long : ∀ least ∈ options.minLength, ∀ text, value = .text text → least ≤ text.length
  short : ∀ most ∈ options.maxLength, ∀ text, value = .text text → text.length ≤ most
  member : options.members ≠ [] → ∃ member ∈ options.members, value.EqualsMember member
  format : ∀ format ∈ options.format, format = .email →
    ∀ text, value = .text text → '@' ∈ text.toList

theorem admits_iff {options : Primitive} {value : Value} :
    options.Admits value ↔
      (options.kind.Holds value ∨ value = .null ∧ options.nullable = true) ∧
        (∀ bound ∈ options.minimum, ∀ number, value = .number number →
          ¬ number.Below bound) ∧
        (∀ bound ∈ options.maximum, ∀ number, value = .number number →
          ¬ bound.Below number) ∧
        (∀ least ∈ options.minLength, ∀ text, value = .text text → least ≤ text.length) ∧
        (∀ most ∈ options.maxLength, ∀ text, value = .text text → text.length ≤ most) ∧
        (options.members ≠ [] → ∃ member ∈ options.members, value.EqualsMember member) ∧
        (∀ format ∈ options.format, format = .email →
          ∀ text, value = .text text → '@' ∈ text.toList) :=
  ⟨fun ⟨kind, above, below, long, short, member, format⟩ =>
      ⟨kind, above, below, long, short, member, format⟩,
    fun ⟨kind, above, below, long, short, member, format⟩ =>
      ⟨kind, above, below, long, short, member, format⟩⟩

end Primitive

def ArrayOptions.Allows (options : ArrayOptions) (count : Nat) : Prop :=
  (∀ least ∈ options.minItems, least ≤ count) ∧ ∀ most ∈ options.maxItems, count ≤ most

mutual
def Descriptor.Admits (refs : Value → Entries → Value → Prop) :
    Descriptor → Value → Prop
  | .primitive options, value => options.Admits value
  | .mapping fields nullable, value =>
      (value = .null ∧ nullable = true) ∨
        ∃ entries, value.IsDict entries ∧
          (∀ entry ∈ entries, ∃ field ∈ fields, entry.1 = .text field.wireKey) ∧
          (∀ field ∈ fields, field.optional = false →
            ∃ item, entries.get? field.wireKey = some item) ∧
          fieldsAdmit refs fields entries
  | .array element options, value =>
      (value = .null ∧ options.nullable = true) ∨
        ∃ items, value = .list items ∧ options.Allows items.length ∧
          ∀ item ∈ items, element.Admits refs item
  | .ref provider options, value => refs provider options value
  | .foreign _, _ => False
termination_by structural node => node

/-- Every entry that belongs to a field is admitted by it. -/
def fieldsAdmit (refs : Value → Entries → Value → Prop) :
    List Field → Entries → Prop
  | [], _ => True
  | ⟨name, descriptor, _, key⟩ :: rest, entries =>
      (∀ item, entries.get? (key.getD name) = some item → descriptor.Admits refs item) ∧
        fieldsAdmit refs rest entries
termination_by structural fields => fields
end

mutual
/-- A tree of primitives, mappings and arrays only. -/
def Descriptor.ProviderFree : Descriptor → Prop
  | .primitive _ => True
  | .mapping fields _ => fieldsProviderFree fields
  | .array element _ => element.ProviderFree
  | .ref _ _ => False
  | .foreign _ => False
termination_by structural node => node

def fieldsProviderFree : List Field → Prop
  | [] => True
  | ⟨_, descriptor, _, _⟩ :: rest => descriptor.ProviderFree ∧ fieldsProviderFree rest
termination_by structural fields => fields
end

/-- What a descriptor without references says of a value. -/
def Descriptor.Satisfied (node : Descriptor) (value : Value) : Prop :=
  node.Admits (fun _ _ _ => False) value

theorem fieldsAdmit_iff (refs : Value → Entries → Value → Prop) (entries : Entries)
    (fields : List Field) :
    fieldsAdmit refs fields entries ↔
      ∀ field ∈ fields, ∀ item, entries.get? field.wireKey = some item →
        field.descriptor.Admits refs item := by
  induction fields with
  | nil => simp [fieldsAdmit]
  | cons field rest induction =>
      obtain ⟨name, descriptor, optional, key⟩ := field
      rw [fieldsAdmit, induction]
      simp [Field.wireKey]

mutual
theorem Descriptor.admits_of_providerFree {ok other : Value → Entries → Value → Prop} :
    (node : Descriptor) → node.ProviderFree → (value : Value) → node.Admits ok value →
      node.Admits other value
  | .primitive _, _, _, admitted => admitted
  | .mapping fields _, free, _, admitted => by
      rcases admitted with null | ⟨entries, dict, closed, present, inside⟩
      · exact .inl null
      · exact .inr ⟨entries, dict, closed, present,
          fieldsAdmit_of_providerFree fields free entries inside⟩
  | .array element _, free, _, admitted => by
      rcases admitted with null | ⟨items, list, allowed, inside⟩
      · exact .inl null
      · exact .inr ⟨items, list, allowed, fun item member =>
          element.admits_of_providerFree free item (inside item member)⟩
termination_by structural node => node

theorem fieldsAdmit_of_providerFree {ok other : Value → Entries → Value → Prop} :
    (fields : List Field) → fieldsProviderFree fields → (entries : Entries) →
      fieldsAdmit ok fields entries → fieldsAdmit other fields entries
  | [], _, _, _ => trivial
  | ⟨_, descriptor, _, _⟩ :: rest, free, entries, inside =>
      ⟨fun item found => descriptor.admits_of_providerFree free.1 item (inside.1 item found),
        fieldsAdmit_of_providerFree rest free.2 entries inside.2⟩
termination_by structural fields => fields
end

end RecordSchema
