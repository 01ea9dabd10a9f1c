import RecordSchema.Descriptor.Building

namespace RecordSchema

/-! Values with other provider objects in the same places.  Keys keep theirs, since a copy
of a mapping keeps its keys. -/

mutual
/-- The value with the identities of its provider objects renamed. -/
def Value.rename (names : Nat → Nat) : Value → Value
  | .list items => .list (renameItems names items)
  | .tuple items => .tuple (renameItems names items)
  | .set frozen members => .set frozen (renameItems names members)
  | .map kind entries => .map kind (renameEntries names entries)
  | .provider c id => .provider c (names id)
  | .descriptor node => .descriptor (node.rename names)
  | .field ⟨name, descriptor, optional, key⟩ =>
      .field ⟨name, descriptor.rename names, optional, key⟩
  | value => value
termination_by structural value => value

def renameItems (names : Nat → Nat) : List Value → List Value
  | [] => []
  | item :: items => item.rename names :: renameItems names items
termination_by structural items => items

def renameEntries (names : Nat → Nat) : List (Value × Value) → List (Value × Value)
  | [] => []
  | (key, value) :: rest => (key, value.rename names) :: renameEntries names rest
termination_by structural entries => entries

def Descriptor.rename (names : Nat → Nat) : Descriptor → Descriptor
  | .primitive options => .primitive options
  | .mapping fields nullable => .mapping (renameFields names fields) nullable
  | .array element options => .array (element.rename names) options
  | .ref provider options => .ref (provider.rename names) (renameEntries names options)
  | .foreign value => .foreign (value.rename names)
termination_by structural node => node

def renameFields (names : Nat → Nat) : List Field → List Field
  | [] => []
  | ⟨name, descriptor, optional, key⟩ :: rest =>
      ⟨name, descriptor.rename names, optional, key⟩ :: renameFields names rest
termination_by structural fields => fields
end

theorem renameEntries_eq_map (names : Nat → Nat) (entries : Entries) :
    renameEntries names entries = entries.map (fun entry => (entry.1, entry.2.rename names)) := by
  induction entries with
  | nil => rfl
  | cons entry rest induction =>
      rw [renameEntries, induction]
      rfl

variable {names : Nat → Nat}

mutual
theorem Value.rename_of_fixed (fixed : ∀ id, names id = id) :
    (value : Value) → value.rename names = value
  | .list items => congrArg Value.list (renameItems_of_fixed fixed items)
  | .tuple items => congrArg Value.tuple (renameItems_of_fixed fixed items)
  | .set frozen members => congrArg (Value.set frozen) (renameItems_of_fixed fixed members)
  | .map kind entries => congrArg (Value.map kind) (renameEntries_of_fixed fixed entries)
  | .provider c id => congrArg (Value.provider c) (fixed id)
  | .descriptor node => congrArg Value.descriptor (node.rename_of_fixed fixed)
  | .field ⟨name, descriptor, optional, key⟩ => by
      rw [Value.rename, descriptor.rename_of_fixed fixed]
  | .null | .bool _ | .number _ | .text _ | .bytes _ _ | .date _ _ _ | .moment _
  | .providerClass _ | .options _ | .other _ => rfl
termination_by structural value => value

theorem renameItems_of_fixed (fixed : ∀ id, names id = id) :
    (items : List Value) → renameItems names items = items
  | [] => rfl
  | item :: rest => by
      rw [renameItems, item.rename_of_fixed fixed, renameItems_of_fixed fixed rest]
termination_by structural items => items

theorem renameEntries_of_fixed (fixed : ∀ id, names id = id) :
    (entries : List (Value × Value)) → renameEntries names entries = entries
  | [] => rfl
  | (key, value) :: rest => by
      rw [renameEntries, value.rename_of_fixed fixed, renameEntries_of_fixed fixed rest]
termination_by structural entries => entries

theorem Descriptor.rename_of_fixed (fixed : ∀ id, names id = id) :
    (node : Descriptor) → node.rename names = node
  | .primitive _ => rfl
  | .mapping fields nullable => by
      rw [Descriptor.rename, renameFields_of_fixed fixed fields]
  | .array element options => by
      rw [Descriptor.rename, element.rename_of_fixed fixed]
  | .ref provider options => by
      rw [Descriptor.rename, provider.rename_of_fixed fixed,
        renameEntries_of_fixed fixed options]
  | .foreign value => by
      rw [Descriptor.rename, value.rename_of_fixed fixed]
termination_by structural node => node

theorem renameFields_of_fixed (fixed : ∀ id, names id = id) :
    (fields : List Field) → renameFields names fields = fields
  | [] => rfl
  | ⟨name, descriptor, optional, key⟩ :: rest => by
      rw [renameFields, descriptor.rename_of_fixed fixed, renameFields_of_fixed fixed rest]
termination_by structural fields => fields
end

mutual
theorem Value.rename_rename (first second : Nat → Nat) :
    (value : Value) →
      (value.rename first).rename second = value.rename (fun id => second (first id))
  | .list items => congrArg Value.list (renameItems_rename first second items)
  | .tuple items => congrArg Value.tuple (renameItems_rename first second items)
  | .set frozen members =>
      congrArg (Value.set frozen) (renameItems_rename first second members)
  | .map kind entries => congrArg (Value.map kind) (renameEntries_rename first second entries)
  | .provider _ _ => rfl
  | .descriptor node => congrArg Value.descriptor (node.rename_rename first second)
  | .field ⟨name, descriptor, optional, key⟩ => by
      simp only [Value.rename, descriptor.rename_rename first second]
  | .null | .bool _ | .number _ | .text _ | .bytes _ _ | .date _ _ _ | .moment _
  | .providerClass _ | .options _ | .other _ => rfl
termination_by structural value => value

theorem renameItems_rename (first second : Nat → Nat) :
    (items : List Value) →
      renameItems second (renameItems first items) =
        renameItems (fun id => second (first id)) items
  | [] => rfl
  | item :: rest => by
      simp only [renameItems, item.rename_rename first second,
        renameItems_rename first second rest]
termination_by structural items => items

theorem renameEntries_rename (first second : Nat → Nat) :
    (entries : List (Value × Value)) →
      renameEntries second (renameEntries first entries) =
        renameEntries (fun id => second (first id)) entries
  | [] => rfl
  | (key, value) :: rest => by
      simp only [renameEntries, value.rename_rename first second,
        renameEntries_rename first second rest]
termination_by structural entries => entries

theorem Descriptor.rename_rename (first second : Nat → Nat) :
    (node : Descriptor) →
      (node.rename first).rename second = node.rename (fun id => second (first id))
  | .primitive _ => rfl
  | .mapping fields nullable => by
      simp only [Descriptor.rename, renameFields_rename first second fields]
  | .array element options => by
      simp only [Descriptor.rename, element.rename_rename first second]
  | .ref provider options => by
      simp only [Descriptor.rename, provider.rename_rename first second,
        renameEntries_rename first second options]
  | .foreign value => by
      simp only [Descriptor.rename, value.rename_rename first second]
termination_by structural node => node

theorem renameFields_rename (first second : Nat → Nat) :
    (fields : List Field) →
      renameFields second (renameFields first fields) =
        renameFields (fun id => second (first id)) fields
  | [] => rfl
  | ⟨name, descriptor, optional, key⟩ :: rest => by
      simp only [renameFields, descriptor.rename_rename first second,
        renameFields_rename first second rest]
termination_by structural fields => fields
end

/-! ### What renaming does not touch -/

mutual
@[simp] theorem Value.hashable_rename :
    (value : Value) → (value.rename names).hashable = value.hashable
  | .tuple items => allHashable_rename items
  | .descriptor node => node.hashable_rename
  | .field ⟨_, descriptor, _, _⟩ => descriptor.hashable_rename
  | .null | .bool _ | .number _ | .text _ | .bytes _ _ | .list _ | .set _ _ | .map _ _
  | .date _ _ _ | .moment _ | .providerClass _ | .provider _ _ | .options _ | .other _ => rfl
termination_by structural value => value

theorem allHashable_rename :
    (items : List Value) → allHashable (renameItems names items) = allHashable items
  | [] => rfl
  | item :: rest => by
      rw [renameItems, allHashable, item.hashable_rename, allHashable_rename rest, allHashable]
termination_by structural items => items

theorem Descriptor.hashable_rename :
    (node : Descriptor) → (node.rename names).hashable = node.hashable
  | .primitive _ => rfl
  | .mapping fields _ => allFieldsHashable_rename fields
  | .array element _ => element.hashable_rename
  | .ref _ _ => rfl
  | .foreign value => value.hashable_rename
termination_by structural node => node

theorem allFieldsHashable_rename :
    (fields : List Field) → allFieldsHashable (renameFields names fields) = allFieldsHashable fields
  | [] => rfl
  | ⟨_, descriptor, _, _⟩ :: rest => by
      rw [renameFields, allFieldsHashable, descriptor.hashable_rename,
        allFieldsHashable_rename rest, allFieldsHashable]
termination_by structural fields => fields
end

mutual
theorem Value.freeze_rename :
    (value : Value) → (value.rename names).freeze = value.freeze.rename names
  | .list items => congrArg Value.tuple (freezeItems_rename items)
  | .tuple items => congrArg Value.tuple (freezeItems_rename items)
  | .set _ members => congrArg (Value.set true) (freezeItems_rename members)
  | .map _ entries => congrArg (Value.map .readOnly) (freezeEntries_rename entries)
  | .null | .bool _ | .number _ | .text _ | .bytes _ _ | .date _ _ _ | .moment _
  | .providerClass _ | .provider _ _ | .descriptor _ | .field ⟨_, _, _, _⟩ | .options _
  | .other _ => rfl
termination_by structural value => value

theorem freezeItems_rename :
    (items : List Value) →
      freezeItems (renameItems names items) = renameItems names (freezeItems items)
  | [] => rfl
  | item :: rest => by
      simp only [renameItems, freezeItems, item.freeze_rename, freezeItems_rename rest]
termination_by structural items => items

theorem freezeEntries_rename :
    (entries : List (Value × Value)) →
      freezeEntries (renameEntries names entries) = renameEntries names (freezeEntries entries)
  | [] => rfl
  | (key, value) :: rest => by
      simp only [renameEntries, freezeEntries, value.freeze_rename, freezeEntries_rename rest]
termination_by structural entries => entries
end

mutual
theorem Value.thaw?_rename :
    (value : Value) → (value.rename names).thaw? = value.thaw?.map (Value.rename names)
  | .list items => by
      rw [Value.rename, Value.thaw?, thawItems?_rename items, Value.thaw?]
      cases thawItems? items <;> rfl
  | .tuple items => by
      rw [Value.rename, Value.thaw?, thawItems?_rename items, Value.thaw?]
      cases thawItems? items <;> rfl
  | .set true members => by
      rw [Value.rename, Value.thaw?, thawItems?_rename members, Value.thaw?]
      cases thawItems? members with
      | none => rfl
      | some thawed =>
          simp only [Option.map_some, Option.bind_some, allHashable_rename]
          cases allHashable thawed <;> rfl
  | .map _ entries => by
      rw [Value.rename, Value.thaw?, thawEntries?_rename entries, Value.thaw?]
      cases thawEntries? entries <;> rfl
  | .set false _ | .null | .bool _ | .number _ | .text _ | .bytes _ _ | .date _ _ _
  | .moment _ | .providerClass _ | .provider _ _ | .descriptor _ | .field ⟨_, _, _, _⟩
  | .options _ | .other _ => rfl
termination_by structural value => value

theorem thawItems?_rename :
    (items : List Value) →
      thawItems? (renameItems names items) = (thawItems? items).map (renameItems names)
  | [] => rfl
  | item :: rest => by
      rw [renameItems, thawItems?, item.thaw?_rename, thawItems?_rename rest, thawItems?]
      cases item.thaw? <;> cases thawItems? rest <;> rfl
termination_by structural items => items

theorem thawEntries?_rename :
    (entries : List (Value × Value)) →
      thawEntries? (renameEntries names entries) =
        (thawEntries? entries).map (renameEntries names)
  | [] => rfl
  | (key, value) :: rest => by
      rw [renameEntries, thawEntries?, value.thaw?_rename, thawEntries?_rename rest,
        thawEntries?]
      cases value.thaw? <;> cases thawEntries? rest <;> rfl
termination_by structural entries => entries
end

namespace Entries

theorem find?_rename (entries : Entries) (key : Value) :
    Entries.find? (renameEntries names entries) key =
      (entries.find? key).map (Value.rename names) := by
  simp only [Entries.find?, renameEntries_eq_map, List.find?_map, Option.map_map]
  rfl

theorem get?_rename (entries : Entries) (name : String) :
    Entries.get? (renameEntries names entries) name =
      (entries.get? name).map (Value.rename names) :=
  find?_rename entries (.text name)

theorem contains_rename (entries : Entries) (name : String) :
    Entries.contains (renameEntries names entries) name = entries.contains name := by
  rw [Entries.contains, get?_rename, Option.isSome_map, Entries.contains]

theorem hidden_rename (kind : MapKind) (entries : Entries) :
    hidden kind (renameEntries names entries) = hidden kind entries := by
  rw [hidden, contains_rename, hidden]

theorem erase_rename (entries : Entries) (name : String) :
    Entries.erase (renameEntries names entries) name =
      renameEntries names (entries.erase name) := by
  simp only [Entries.erase, renameEntries_eq_map, List.filter_map]
  rfl

theorem insert_rename (key value : Value) (entries : Entries) :
    Entries.insert (renameEntries names entries) key (value.rename names) =
      renameEntries names (entries.insert key value) := by
  induction entries with
  | nil => rfl
  | cons entry rest induction =>
      rw [renameEntries, Entries.insert, Entries.insert, induction]
      split <;> rfl

theorem merge_rename (lower upper : Entries) :
    Entries.merge (renameEntries names lower) (renameEntries names upper) =
      renameEntries names (Entries.merge lower upper) := by
  induction upper generalizing lower with
  | nil => rfl
  | cons entry rest induction =>
      have later := induction (lower.insert entry.1 entry.2)
      rw [← insert_rename] at later
      exact later

end Entries

mutual
@[simp] theorem Value.listable_rename :
    (value : Value) → (value.rename names).listable = value.listable
  | .list items | .tuple items | .set _ items => itemsListable_rename items
  | .map kind entries => by
      rw [Value.rename, Value.listable, Entries.hidden_rename, entriesListable_rename entries,
        Value.listable]
  | .null | .bool _ | .number _ | .text _ | .bytes _ _ | .date _ _ _ | .moment _
  | .providerClass _ | .provider _ _ | .descriptor _ | .field ⟨_, _, _, _⟩ | .options _
  | .other _ => rfl
termination_by structural value => value

theorem itemsListable_rename :
    (items : List Value) → itemsListable (renameItems names items) = itemsListable items
  | [] => rfl
  | item :: rest => by
      rw [renameItems, itemsListable, item.listable_rename, itemsListable_rename rest,
        itemsListable]
termination_by structural items => items

theorem entriesListable_rename :
    (entries : List (Value × Value)) →
      entriesListable (renameEntries names entries) = entriesListable entries
  | [] => rfl
  | (_, value) :: rest => by
      rw [renameEntries, entriesListable, value.listable_rename, entriesListable_rename rest,
        entriesListable]
termination_by structural entries => entries
end

end RecordSchema
