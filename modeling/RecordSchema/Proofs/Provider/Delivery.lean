import RecordSchema.Proofs.Provider.Sharing

namespace RecordSchema

/-! What a provider is handed of the options that a reference was built with, and when there is
anything to hand over. -/

/-! ### Data, and its plain form -/

mutual
/-- Data built from null, truth values, numbers, texts, bytes, sequences, sets and mappings. -/
def Value.Data : Value → Prop
  | .null | .bool _ | .number _ | .text _ | .bytes false _ => True
  | .list items => itemsData items
  | .tuple items => itemsData items
  | .set _ members => itemsData members
  | .map _ entries => entriesData entries
  | _ => False
termination_by structural value => value

def itemsData : List Value → Prop
  | [] => True
  | item :: items => item.Data ∧ itemsData items
termination_by structural items => items

def entriesData : List (Value × Value) → Prop
  | [] => True
  | (_, value) :: rest => value.Data ∧ entriesData rest
termination_by structural entries => entries
end

mutual
/-- Sequences as lists, sets as sets of their items and mappings as plain ones. -/
def Value.delivered : Value → Value
  | .list items => .list (deliveredItems items)
  | .tuple items => .list (deliveredItems items)
  | .set _ members => .set false members
  | .map _ entries => .map .plain (deliveredEntries entries)
  | value => value
termination_by structural value => value

def deliveredItems : List Value → List Value
  | [] => []
  | item :: items => item.delivered :: deliveredItems items
termination_by structural items => items

def deliveredEntries : List (Value × Value) → List (Value × Value)
  | [] => []
  | (key, value) :: rest => (key, value.delivered) :: deliveredEntries rest
termination_by structural entries => entries
end

def Value.isContainer : Value → Bool
  | .list _ | .tuple _ | .set _ _ | .map _ _ => true
  | _ => false

def noneContains (members : List Value) : Bool :=
  members.all (fun member => !member.isContainer)

mutual
/-- At no depth is a container the member of a set. -/
def Value.deliverable : Value → Bool
  | .list items => itemsDeliverable items
  | .tuple items => itemsDeliverable items
  | .set _ members => noneContains members
  | .map _ entries => entriesDeliverable entries
  | _ => true
termination_by structural value => value

def itemsDeliverable : List Value → Bool
  | [] => true
  | item :: items => item.deliverable && itemsDeliverable items
termination_by structural items => items

def entriesDeliverable : List (Value × Value) → Bool
  | [] => true
  | (_, value) :: rest => value.deliverable && entriesDeliverable rest
termination_by structural entries => entries
end

/-! ### Atoms -/

section Atoms

variable {value : Value} {members : List Value}

theorem Value.freeze_of_atom (atom : value.isContainer = false) : value.freeze = value := by
  cases value with
  | list | tuple | set | map => cases atom
  | _ => rfl

theorem Value.delivered_of_atom (atom : value.isContainer = false) : value.delivered = value := by
  cases value with
  | list | tuple | set | map => cases atom
  | _ => rfl

theorem Value.deliverable_of_atom (atom : value.isContainer = false) :
    value.deliverable = true := by
  cases value with
  | list | tuple | set | map => cases atom
  | _ => rfl

/-- Of what a provider is handed, the containers cannot be members of a set. -/
theorem Value.hashable_delivered (data : value.Data) :
    value.delivered.hashable = !value.isContainer := by
  cases value with
  | bytes mutable content =>
      cases mutable with
      | false => rfl
      | true => exact data.elim
  | null | bool | number | text | list | tuple | set | map => rfl
  | _ => exact data.elim

theorem allHashable_delivered (data : itemsData members) :
    allHashable (deliveredItems members) = noneContains members := by
  induction members with
  | nil => rfl
  | cons member members induction =>
      rw [deliveredItems, allHashable, Value.hashable_delivered data.1, induction data.2]
      rfl

theorem noneContains_cons {member : Value} :
    noneContains (member :: members) = true ↔
      member.isContainer = false ∧ noneContains members = true := by
  simp [noneContains]

theorem freezeItems_of_noneContains (atoms : noneContains members = true) :
    freezeItems members = members := by
  induction members with
  | nil => rfl
  | cons member members induction =>
      have both := noneContains_cons.mp atoms
      rw [freezeItems, Value.freeze_of_atom both.1, induction both.2]

theorem deliveredItems_of_noneContains (atoms : noneContains members = true) :
    deliveredItems members = members := by
  induction members with
  | nil => rfl
  | cons member members induction =>
      have both := noneContains_cons.mp atoms
      rw [deliveredItems, Value.delivered_of_atom both.1, induction both.2]

theorem itemsDeliverable_of_noneContains (atoms : noneContains members = true) :
    itemsDeliverable members = true := by
  induction members with
  | nil => rfl
  | cons member members induction =>
      have both := noneContains_cons.mp atoms
      rw [itemsDeliverable, Value.deliverable_of_atom both.1, induction both.2, Bool.and_self]

end Atoms

/-! ### Thawing what was frozen -/

mutual
/-- What was frozen has a plain form iff it can be delivered, and then it is what is delivered. -/
theorem Value.thaw?_freeze_of_data : (value : Value) → value.Data →
    value.freeze.thaw? = if value.deliverable then some value.delivered else none
  | .null, _ | .bool _, _ | .number _, _ | .text _, _ | .bytes false _, _ => rfl
  | .list items, data | .tuple items, data => by
      rw [Value.freeze, Value.thaw?, thawItems?_freeze_of_data items data, Value.deliverable,
        Value.delivered]
      split <;> rfl
  | .set _ members, data => by
      rw [Value.freeze, Value.thaw?, thawItems?_freeze_of_data members data, Value.deliverable,
        Value.delivered]
      cases atoms : noneContains members with
      | true =>
          rw [itemsDeliverable_of_noneContains atoms, if_pos rfl, if_pos rfl, Option.bind_some,
            allHashable_delivered data, atoms, if_pos rfl, deliveredItems_of_noneContains atoms]
      | false =>
          -- Even if each member has a plain form, one of these is a container and not hashable.
          split
          · rw [Option.bind_some, allHashable_delivered data, atoms]
            rfl
          · rfl
  | .map _ entries, data => by
      rw [Value.freeze, Value.thaw?, thawEntries?_freeze_of_data entries data, Value.deliverable,
        Value.delivered]
      split <;> rfl
termination_by structural value => value

theorem thawItems?_freeze_of_data : (items : List Value) → itemsData items →
    thawItems? (freezeItems items) =
      if itemsDeliverable items then some (deliveredItems items) else none
  | [], _ => rfl
  | item :: items, data => by
      rw [freezeItems, thawItems?, item.thaw?_freeze_of_data data.1,
        thawItems?_freeze_of_data items data.2, itemsDeliverable, deliveredItems]
      cases item.deliverable <;> cases itemsDeliverable items <;> rfl
termination_by structural items => items

theorem thawEntries?_freeze_of_data : (entries : List (Value × Value)) → entriesData entries →
    thawEntries? (freezeEntries entries) =
      if entriesDeliverable entries then some (deliveredEntries entries) else none
  | [], _ => rfl
  | (key, value) :: rest, data => by
      rw [freezeEntries, thawEntries?, value.thaw?_freeze_of_data data.1,
        thawEntries?_freeze_of_data rest data.2, entriesDeliverable, deliveredEntries]
      cases value.deliverable <;> cases entriesDeliverable rest <;> rfl
termination_by structural entries => entries
end

/-! ### Copies of data -/

mutual
theorem Value.data_freeze : (value : Value) → value.Data → value.freeze.Data
  | .null, _ | .bool _, _ | .number _, _ | .text _, _ | .bytes false _, _ => trivial
  | .list items, data | .tuple items, data | .set _ items, data => itemsData_freeze items data
  | .map _ entries, data => entriesData_freeze entries data
termination_by structural value => value

theorem itemsData_freeze : (items : List Value) → itemsData items → itemsData (freezeItems items)
  | [], _ => trivial
  | item :: items, data => ⟨item.data_freeze data.1, itemsData_freeze items data.2⟩
termination_by structural items => items

theorem entriesData_freeze : (entries : List (Value × Value)) → entriesData entries →
    entriesData (freezeEntries entries)
  | [], _ => trivial
  | (_, value) :: rest, data => ⟨value.data_freeze data.1, entriesData_freeze rest data.2⟩
termination_by structural entries => entries
end

mutual
theorem Value.data_delivered : (value : Value) → value.Data → value.delivered.Data
  | .null, _ | .bool _, _ | .number _, _ | .text _, _ | .bytes false _, _ => trivial
  | .list items, data | .tuple items, data => itemsData_delivered items data
  | .set _ _, data => data
  | .map _ entries, data => entriesData_delivered entries data
termination_by structural value => value

theorem itemsData_delivered : (items : List Value) → itemsData items →
    itemsData (deliveredItems items)
  | [], _ => trivial
  | item :: items, data => ⟨item.data_delivered data.1, itemsData_delivered items data.2⟩
termination_by structural items => items

theorem entriesData_delivered : (entries : List (Value × Value)) → entriesData entries →
    entriesData (deliveredEntries entries)
  | [], _ => trivial
  | (_, value) :: rest, data => ⟨value.data_delivered data.1, entriesData_delivered rest data.2⟩
termination_by structural entries => entries
end

mutual
/-- There is nothing in data that a copy would not have. -/
theorem Value.copy_of_data : (value : Value) → value.Data → value.copy = pure value
  | .null, _ | .bool _, _ | .number _, _ | .text _, _ | .bytes false _, _ => rfl
  | .list items, data | .tuple items, data | .set _ items, data => by
      rw [Value.copy, copyItems_of_data items data, pure_bind]
  | .map _ entries, data => by rw [Value.copy, copyEntries_of_data entries data, pure_bind]
termination_by structural value => value

theorem copyItems_of_data : (items : List Value) → itemsData items → copyItems items = pure items
  | [], _ => rfl
  | item :: items, data => by
      rw [copyItems, item.copy_of_data data.1, pure_bind, copyItems_of_data items data.2,
        pure_bind]
termination_by structural items => items

theorem copyEntries_of_data : (entries : List (Value × Value)) → entriesData entries →
    copyEntries entries = pure entries
  | [], _ => rfl
  | (key, value) :: rest, data => by
      rw [copyEntries, value.copy_of_data data.1, pure_bind, copyEntries_of_data rest data.2,
        pure_bind]
termination_by structural entries => entries
end

theorem Entries.snapshot_of_data {options : Entries} (data : entriesData options)
    (listable : entriesListable options = true) :
    options.snapshot = pure (freezeEntries options) := by
  rw [snapshot_of_listable ((Value.listable_map_plain options).trans listable)]
  exact copyEntries_of_data _ (entriesData_freeze options data)

theorem Entries.delivery_freeze {options : Entries} (data : entriesData options) :
    Entries.delivery (freezeEntries options) =
      if entriesDeliverable options then pure (deliveredEntries options) else throw .type := by
  rw [delivery, thawEntries?_freeze_of_data options data]
  cases entriesDeliverable options with
  | true => exact copyEntries_of_data _ (entriesData_delivered options data)
  | false => rfl

/-! ### Comparing snapshots -/

theorem deliveredEntries_eq_map (entries : Entries) :
    deliveredEntries entries = entries.map (fun entry => (entry.1, entry.2.delivered)) := by
  induction entries with
  | nil => rfl
  | cons entry rest induction =>
      obtain ⟨key, value⟩ := entry
      rw [deliveredEntries, induction, List.map_cons]

theorem length_deliveredEntries (entries : Entries) :
    (deliveredEntries entries).length = entries.length := by
  rw [deliveredEntries_eq_map, List.length_map]

theorem find?_deliveredEntries (entries : Entries) (key : Value) :
    List.find? (fun other => key.eqv other.1) (deliveredEntries entries) =
      (List.find? (fun other => key.eqv other.1) entries).map
        (fun entry => (entry.1, entry.2.delivered)) := by
  rw [deliveredEntries_eq_map, List.find?_map]
  rfl

theorem entriesData_iff {entries : Entries} :
    entriesData entries ↔ ∀ entry ∈ entries, entry.2.Data :=
  forall_mem_of_clauses entriesData trivial (fun _ _ => .rfl)

theorem entriesDeliverable_iff {entries : Entries} :
    entriesDeliverable entries = true ↔ ∀ entry ∈ entries, entry.2.deliverable = true :=
  forall_mem_of_clauses (fun entries => entriesDeliverable entries = true) rfl
    (fun _ _ => Bool.and_eq_true_iff)

theorem Value.same_of_atom {a : Value} (atom : a.isContainer = false) (data : a.Data)
    (b : Value) : a.same true b = a.same false b := by
  cases a with
  | list | tuple | set | map => cases atom
  | bytes mutable content =>
      cases mutable with
      | false => cases b <;> rfl
      | true => exact data.elim
  | null | bool | number | text => cases b <;> rfl
  | _ => exact data.elim

theorem membersWithin_of_atoms {as : List Value} (atoms : noneContains as = true)
    (data : itemsData as) (bs : List Value) :
    membersWithin true as bs = membersWithin false as bs := by
  induction as with
  | nil => rfl
  | cons a as induction =>
      have both := noneContains_cons.mp atoms
      have first (b : Value) : a.same true b = a.same false b := a.same_of_atom both.1 data.1 b
      rw [membersWithin, membersWithin, induction both.2 data.2]
      simp only [first]

mutual
/-- Snapshots that can be delivered are compared as what is delivered of them. -/
theorem Value.same_freeze : (a : Value) → a.Data → a.deliverable = true → {b : Value} → b.Data →
    b.deliverable = true → a.freeze.same true b.freeze = a.delivered.same false b.delivered
  | .null, _, _, b, _, _ | .bool _, _, _, b, _, _ | .number _, _, _, b, _, _
  | .text _, _, _, b, _, _ | .bytes false _, _, _, b, _, _ => by cases b <;> rfl
  | .list as, data, plain, b, data', plain' | .tuple as, data, plain, b, data', plain' => by
      cases b with
      | list bs => exact sameItems_freeze as data plain data' plain'
      | tuple bs => exact sameItems_freeze as data plain data' plain'
      | _ => rfl
  | .set _ as, data, atoms, b, data', atoms' => by
      cases b with
      | set frozen bs =>
          -- The members are no containers, and have one form only.
          rw [Value.deliverable] at atoms atoms'
          rw [Value.freeze, Value.freeze, freezeItems_of_noneContains atoms,
            freezeItems_of_noneContains atoms', Value.same, membersWithin_of_atoms atoms data]
          rfl
      | _ => rfl
  | .map _ as, data, plain, b, data', plain' => by
      cases b with
      | map kind bs =>
          rw [Value.freeze, Value.freeze, Value.delivered, Value.delivered, Value.same, Value.same,
            length_freezeEntries, length_freezeEntries, length_deliveredEntries,
            length_deliveredEntries, entriesWithin_freeze as data plain data' plain']
      | _ => rfl
termination_by structural a => a

theorem sameItems_freeze : (as : List Value) → itemsData as → itemsDeliverable as = true →
    {bs : List Value} → itemsData bs → itemsDeliverable bs = true →
      sameItems true (freezeItems as) (freezeItems bs) =
        sameItems false (deliveredItems as) (deliveredItems bs)
  | [], _, _, bs, _, _ => by cases bs <;> rfl
  | a :: as, data, plain, bs, data', plain' => by
      cases bs with
      | nil => rfl
      | cons b bs =>
          rw [itemsDeliverable, Bool.and_eq_true] at plain plain'
          rw [freezeItems, freezeItems, deliveredItems, deliveredItems, sameItems, sameItems,
            a.same_freeze data.1 plain.1 data'.1 plain'.1,
            sameItems_freeze as data.2 plain.2 data'.2 plain'.2]
termination_by structural as => as

theorem entriesWithin_freeze : (as : List (Value × Value)) → entriesData as →
    entriesDeliverable as = true → {bs : List (Value × Value)} → entriesData bs →
      entriesDeliverable bs = true →
        entriesWithin true (freezeEntries as) (freezeEntries bs) =
          entriesWithin false (deliveredEntries as) (deliveredEntries bs)
  | [], _, _, _, _, _ => rfl
  | (key, a) :: as, data, plain, bs, data', plain' => by
      rw [entriesDeliverable, Bool.and_eq_true] at plain
      rw [freezeEntries, deliveredEntries, entriesWithin, entriesWithin, find?_freezeEntries,
        find?_deliveredEntries, entriesWithin_freeze as data.2 plain.2 data' plain']
      cases found : bs.find? (fun other => key.eqv other.1) with
      | none => rfl
      | some other =>
          have among := List.mem_of_find?_eq_some found
          have first := a.same_freeze data.1 plain.1 (entriesData_iff.mp data' other among)
            (entriesDeliverable_iff.mp plain' other among)
          simp only [Option.map_some, first]
termination_by structural as => as
end

theorem Entries.compare_freeze {options others : Entries} (data : entriesData options)
    (data' : entriesData others) :
    Entries.compare (freezeEntries options) (freezeEntries others) =
      if entriesDeliverable options && entriesDeliverable others then
        .ok ((Value.map .plain (deliveredEntries options)).eqv
          (.map .plain (deliveredEntries others)))
      else .error .type := by
  rw [compare, thawEntries?_freeze_of_data options data, thawEntries?_freeze_of_data others data']
  cases entriesDeliverable options <;> cases entriesDeliverable others <;> rfl

/-- Comparing two references fails iff both hold one provider and the options of one of them
cannot be delivered. -/
theorem Descriptor.compare_refs (provider other : Value) {options others : Entries}
    (data : entriesData options) (data' : entriesData others) :
    (ref provider (freezeEntries options)).compare (ref other (freezeEntries others)) =
      if provider.eqv other && !(entriesDeliverable options && entriesDeliverable others) then
        .error .type
      else
        .ok ((ref provider (freezeEntries options)).same (ref other (freezeEntries others))) := by
  have one : provider.same false other = provider.eqv other := rfl
  rw [compare, same, one]
  cases provider.eqv other with
  | false => rfl
  | true =>
      rw [if_pos rfl, Entries.compare_freeze data data', Bool.true_and, Bool.true_and]
      cases deliverable : entriesDeliverable options && entriesDeliverable others with
      | false => rfl
      | true =>
          rw [Bool.and_eq_true] at deliverable
          rw [length_freezeEntries, length_freezeEntries,
            entriesWithin_freeze options data deliverable.1 data' deliverable.2, Value.eqv,
            Value.same, length_deliveredEntries, length_deliveredEntries]
          rfl

/-! ### References -/

/-- What comes of handing options to a provider.  An object does as its class says; calling a class
that stands in a record is taken to fail. -/
def Catalogue.answer (catalogue : Catalogue) : Value → Entries → Action Descriptor
  | .provider c id, options => do
      let spec ← (catalogue c.key).resolve id options
      spec.parse [] none
  | _, _ => Action.fault .type

theorem Catalogue.resolve_freeze (catalogue : Catalogue) {provider : Value}
    (itself : provider.conform = pure provider) {options : Entries} (data : entriesData options) :
    catalogue.resolve provider (freezeEntries options) =
      if entriesDeliverable options then catalogue.answer provider (deliveredEntries options)
      else Action.fault .type := by
  rw [resolve, itself, pure_bind, Entries.delivery_freeze data]
  cases entriesDeliverable options with
  | false => rfl
  | true => cases provider <;> rfl

namespace Blueprint

/-- A reference that is built with options of data keeps a snapshot of them.  Resolving it hands
them over in their plain form, and comparing it gives an answer, iff no container is the member of
a set in them; if one is, both fail before the provider comes to work.  A record that serves as
the provider is compared with itself only, since it has no identity here. -/
theorem reference_hands_over_options {given : Arguments} {candidate : Value} {options : Entries}
    (provider : given.get? "provider" = some candidate)
    (readable : referenceOptions? given = some options) (conforms : candidate.Conforms)
    (data : entriesData options) (session : Session) :
    ∃ used,
      let node := Descriptor.ref used (freezeEntries options)
      (reference.build given).outcome session = .ok (.descriptor node) ∧
      candidate.ServedBy ((reference.build given).after session).instances used ∧
      (∀ catalogue : Catalogue, catalogue.resolve used (freezeEntries options) =
        if entriesDeliverable options then catalogue.answer used (deliveredEntries options)
        else Action.fault .type) ∧
      ∀ other others, (∃ c id, used = .provider c id) ∨ other = used → entriesData others →
        node.compare (.ref other (freezeEntries others)) =
          if used.eqv other && !(entriesDeliverable options && entriesDeliverable others) then
            .error .type
          else .ok (node.same (.ref other (freezeEntries others))) := by
  obtain ⟨used, conformed, served, -, itself⟩ := conforms.served session
  have kept := Entries.snapshot_of_data data (listable_of_referenceOptions? readable)
  have builds : reference.build given = (do
      let used ← candidate.conform
      return .descriptor (.ref used (freezeEntries options))) := by
    rw [build, buildReference_eq provider readable, Descriptor.buildRef, kept, bind_assoc]
    rfl
  refine ⟨used, ?_, ?_, fun catalogue => catalogue.resolve_freeze itself data,
    fun other others _ data' => Descriptor.compare_refs used other data data'⟩
  · rw [builds, Action.outcome_bind_of_ok conformed]
    rfl
  · rw [builds, Action.after_bind_of_ok conformed]
    exact served

/-- Sets among nested sequences and mappings. -/
theorem reference_hands_over_nested_options :
    let spec : ProviderClass := { key := "Spec", typeName := "Spec" }
    let members : List Value := [.int 1, .text "b"]
    let layout (inner : Value) : Entries :=
      [(.text "x", .tuple [.map .readOnly [(.int 0, inner)], .null])]
    let arguments : Arguments := [("provider", .providerClass spec),
      ("options", .map .plain (layout (.set true members)))]
    entriesData (layout (.set true members)) ∧
    ∃ c id, (reference.build arguments).outcome {} =
        .ok (.descriptor (.ref (.provider c id) (freezeEntries (layout (.set true members))))) ∧
      ∀ catalogue : Catalogue,
        catalogue.resolve (.provider c id) (freezeEntries (layout (.set true members))) = (do
          let described ← (catalogue c.key).resolve id
            [(.text "x", .list [.map .plain [(.int 0, .set false members)], .null])]
          described.parse [] none) := by
  intro spec members layout arguments
  have data : entriesData (layout (.set true members)) := by
    simp [layout, members, entriesData, itemsData, Value.Data, Value.int]
  have conforms : (Value.providerClass spec).Conforms := by
    refine ⟨rfl, fun c same => ?_⟩
    cases same
    rfl
  obtain ⟨used, built, served, resolves, -⟩ := @reference_hands_over_options arguments
    (.providerClass spec) (layout (.set true members)) rfl rfl conforms data {}
  cases served with
  | shared => exact ⟨data, _, _, built, fun catalogue => resolves catalogue⟩
  | itself object => exact absurd rfl (object spec)

/-- A tuple in a set is kept in a snapshot and cannot be thawed. -/
theorem tuple_in_set_not_handed_over :
    let spec : ProviderClass := { key := "Spec", typeName := "Spec" }
    let options : Entries := [(.text "x", .set false [.tuple [.int 1]])]
    let frozen : Entries := [(.text "x", .set true [.tuple [.int 1]])]
    let arguments : Arguments := [("provider", .providerClass spec),
      ("options", .map .plain options)]
    entriesData options ∧
    (reference.build arguments).outcome {} =
      .ok (.descriptor (.ref (.provider spec 0) frozen)) ∧
    (∀ (catalogue : Catalogue) (session : Session),
      (catalogue.resolve (.provider spec 0) frozen).outcome session = .error (.fault .type)) ∧
    (Descriptor.ref (.provider spec 0) frozen).compare (.ref (.provider spec 0) frozen) =
      .error .type := by
  intro spec options frozen arguments
  have data : entriesData options := by
    simp [options, entriesData, itemsData, Value.Data, Value.int]
  exact ⟨data, rfl, fun catalogue session => rfl, rfl⟩

end Blueprint

end RecordSchema
