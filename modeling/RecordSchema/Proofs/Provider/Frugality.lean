import RecordSchema.Proofs.Descriptor.Accord
import RecordSchema.Proofs.Provider.Growth
import RecordSchema.Proofs.Provider.Snapshot

namespace RecordSchema

/-! Data that makes no objects when it is copied, and objects that stay once they are made. -/

def Copying.SparesShared (step : Copying α) : Prop :=
  ∀ instances, (step.run.run instances).2.shared = instances.shared

theorem Entries.snapshot_sparesShared (entries : Entries) (kind : MapKind) :
    (entries.snapshot kind).SparesShared :=
  fun instances => (entries.snapshot_allocates kind instances).1

theorem Entries.delivery_sparesShared (entries : Entries) : entries.delivery.SparesShared :=
  fun instances => (entries.delivery_allocates instances).1

/-! ### Data without objects -/

mutual
/-- There are no provider objects in the data, and only such classes. -/
def Value.Frugal (classes : ProviderClass → Prop) : Value → Prop
  | .list items => itemsFrugal classes items
  | .tuple items => itemsFrugal classes items
  | .set _ members => itemsFrugal classes members
  | .map _ entries => entriesFrugal classes entries
  | .providerClass c => classes c
  | .provider _ _ => False
  | .descriptor node => node.Frugal classes
  | .field _ => False
  | .other _ => False
  | _ => True
termination_by structural value => value

def itemsFrugal (classes : ProviderClass → Prop) : List Value → Prop
  | [] => True
  | item :: items => item.Frugal classes ∧ itemsFrugal classes items
termination_by structural items => items

def entriesFrugal (classes : ProviderClass → Prop) : List (Value × Value) → Prop
  | [] => True
  | (_, value) :: rest => value.Frugal classes ∧ entriesFrugal classes rest
termination_by structural entries => entries

/-- References are to objects, with options in which there are none. -/
def Descriptor.Frugal (classes : ProviderClass → Prop) : Descriptor → Prop
  | .primitive _ => True
  | .mapping fields _ => fieldsFrugal classes fields
  | .array element _ => element.Frugal classes
  | .ref provider options => provider.IsObject ∧ entriesFrugal classes options
  | .foreign _ => False
termination_by structural node => node

def fieldsFrugal (classes : ProviderClass → Prop) : List Field → Prop
  | [] => True
  | ⟨_, descriptor, _, _⟩ :: rest => descriptor.Frugal classes ∧ fieldsFrugal classes rest
termination_by structural fields => fields
end

section Frugal

variable {classes : ProviderClass → Prop}

mutual
theorem Value.frugal_mono {wider : ProviderClass → Prop} (wide : ∀ c, classes c → wider c) :
    (value : Value) → value.Frugal classes → value.Frugal wider
  | .list items, frugal => itemsFrugal_mono wide items frugal
  | .tuple items, frugal => itemsFrugal_mono wide items frugal
  | .set _ members, frugal => itemsFrugal_mono wide members frugal
  | .map _ entries, frugal => entriesFrugal_mono wide entries frugal
  | .providerClass c, frugal => wide c frugal
  | .descriptor node, frugal => node.frugal_mono wide frugal
  | .null, _ | .bool _, _ | .number _, _ | .text _, _ | .bytes _ _, _ | .date _ _ _, _
  | .moment _, _ | .options _, _ => trivial
termination_by structural value => value

theorem itemsFrugal_mono {wider : ProviderClass → Prop} (wide : ∀ c, classes c → wider c) :
    (items : List Value) → itemsFrugal classes items → itemsFrugal wider items
  | [], _ => trivial
  | item :: items, frugal =>
      ⟨item.frugal_mono wide frugal.1, itemsFrugal_mono wide items frugal.2⟩
termination_by structural items => items

theorem entriesFrugal_mono {wider : ProviderClass → Prop} (wide : ∀ c, classes c → wider c) :
    (entries : List (Value × Value)) → entriesFrugal classes entries →
      entriesFrugal wider entries
  | [], _ => trivial
  | (_, value) :: rest, frugal =>
      ⟨value.frugal_mono wide frugal.1, entriesFrugal_mono wide rest frugal.2⟩
termination_by structural entries => entries

theorem Descriptor.frugal_mono {wider : ProviderClass → Prop} (wide : ∀ c, classes c → wider c) :
    (node : Descriptor) → node.Frugal classes → node.Frugal wider
  | .primitive _, _ => trivial
  | .mapping fields _, frugal => fieldsFrugal_mono wide fields frugal
  | .array element _, frugal => element.frugal_mono wide frugal
  | .ref _ options, frugal => ⟨frugal.1, entriesFrugal_mono wide options frugal.2⟩
termination_by structural node => node

theorem fieldsFrugal_mono {wider : ProviderClass → Prop} (wide : ∀ c, classes c → wider c) :
    (fields : List Field) → fieldsFrugal classes fields → fieldsFrugal wider fields
  | [], _ => trivial
  | ⟨_, descriptor, _, _⟩ :: rest, frugal =>
      ⟨descriptor.frugal_mono wide frugal.1, fieldsFrugal_mono wide rest frugal.2⟩
termination_by structural fields => fields
end

theorem itemsFrugal_iff {items : List Value} :
    itemsFrugal classes items ↔ ∀ item ∈ items, item.Frugal classes :=
  forall_mem_of_clauses (itemsFrugal classes) trivial (fun _ _ => .rfl)

theorem entriesFrugal_iff {entries : Entries} :
    entriesFrugal classes entries ↔ entries.Hold (Value.Frugal classes) :=
  forall_mem_of_clauses (entriesFrugal classes) trivial (fun _ _ => .rfl)

theorem fieldsFrugal_iff {fields : List Field} :
    fieldsFrugal classes fields ↔ ∀ field ∈ fields, field.descriptor.Frugal classes :=
  forall_mem_of_clauses (fieldsFrugal classes) trivial (fun ⟨_, _, _, _⟩ _ => .rfl)

mutual
theorem Value.frugal_freeze : (value : Value) → value.Frugal classes → value.freeze.Frugal classes
  | .list items, frugal => itemsFrugal_freeze items frugal
  | .tuple items, frugal => itemsFrugal_freeze items frugal
  | .set _ members, frugal => itemsFrugal_freeze members frugal
  | .map _ entries, frugal => entriesFrugal_freeze entries frugal
  | .null, frugal | .bool _, frugal | .number _, frugal | .text _, frugal | .bytes _ _, frugal
  | .date _ _ _, frugal | .moment _, frugal | .providerClass _, frugal | .descriptor _, frugal
  | .options _, frugal => frugal
termination_by structural value => value

theorem itemsFrugal_freeze : (items : List Value) → itemsFrugal classes items →
    itemsFrugal classes (freezeItems items)
  | [], _ => trivial
  | item :: items, frugal => ⟨item.frugal_freeze frugal.1, itemsFrugal_freeze items frugal.2⟩
termination_by structural items => items

theorem entriesFrugal_freeze : (entries : List (Value × Value)) → entriesFrugal classes entries →
    entriesFrugal classes (freezeEntries entries)
  | [], _ => trivial
  | (_, value) :: rest, frugal =>
      ⟨value.frugal_freeze frugal.1, entriesFrugal_freeze rest frugal.2⟩
termination_by structural entries => entries
end

mutual
theorem Value.frugal_thaw : (value : Value) → value.Frugal classes → ∀ thawed ∈ value.thaw?,
    thawed.Frugal classes
  | .list items, frugal => by
      rintro _ given
      obtain ⟨thawed, inner, rfl⟩ := Option.map_eq_some_iff.mp given
      exact itemsFrugal_thaw items frugal thawed inner
  | .tuple items, frugal => by
      rintro _ given
      obtain ⟨thawed, inner, rfl⟩ := Option.map_eq_some_iff.mp given
      exact itemsFrugal_thaw items frugal thawed inner
  | .set true members, frugal => by
      rintro _ given
      obtain ⟨thawed, inner, last⟩ := Option.bind_eq_some_iff.mp given
      split at last
      · cases last
        exact itemsFrugal_thaw members frugal thawed inner
      · exact nomatch last
  | .map _ entries, frugal => by
      rintro _ given
      obtain ⟨thawed, inner, rfl⟩ := Option.map_eq_some_iff.mp given
      exact entriesFrugal_thaw entries frugal thawed inner
  | .set false _, frugal | .null, frugal | .bool _, frugal | .number _, frugal
  | .text _, frugal | .bytes _ _, frugal | .date _ _ _, frugal | .moment _, frugal
  | .providerClass _, frugal | .descriptor _, frugal | .options _, frugal => by
      rintro _ given
      cases given
      exact frugal
termination_by structural value => value

theorem itemsFrugal_thaw : (items : List Value) → itemsFrugal classes items →
    ∀ thawed ∈ thawItems? items, itemsFrugal classes thawed
  | [], _ => by
      rintro _ given
      cases given
      trivial
  | item :: items, frugal => by
      rintro _ given
      obtain ⟨first, head, last⟩ := Option.bind_eq_some_iff.mp given
      obtain ⟨others, tail, rfl⟩ := Option.map_eq_some_iff.mp last
      exact ⟨item.frugal_thaw frugal.1 first head, itemsFrugal_thaw items frugal.2 others tail⟩
termination_by structural items => items

theorem entriesFrugal_thaw : (entries : List (Value × Value)) → entriesFrugal classes entries →
    ∀ thawed ∈ thawEntries? entries, entriesFrugal classes thawed
  | [], _ => by
      rintro _ given
      cases given
      trivial
  | (_, value) :: rest, frugal => by
      rintro _ given
      obtain ⟨first, head, last⟩ := Option.bind_eq_some_iff.mp given
      obtain ⟨others, tail, rfl⟩ := Option.map_eq_some_iff.mp last
      exact ⟨value.frugal_thaw frugal.1 first head, entriesFrugal_thaw rest frugal.2 others tail⟩
termination_by structural entries => entries
end

end Frugal

/-! ### Copies that make no objects -/

/-- The step makes no objects and does not look at those there are. -/
def Copying.Still (step : Copying α) (sort : α → Prop) : Prop :=
  ∃ result, (∀ value, result = .ok value → sort value) ∧
    ∀ instances, step.run.run instances = (result, instances)

namespace Copying.Still

protected theorem pure {value : α} {sort : α → Prop} (given : sort value) :
    (pure value : Copying α).Still sort := by
  refine ⟨.ok value, ?_, fun _ => rfl⟩
  rintro _ ⟨⟩
  exact given

protected theorem throw (fault : Fault) (sort : α → Prop) :
    (throw fault : Copying α).Still sort :=
  ⟨.error fault, nofun, fun _ => rfl⟩

protected theorem bind {step : Copying α} {next : α → Copying β} {middle : α → Prop}
    {sort : β → Prop} (first : step.Still middle)
    (second : ∀ value, middle value → (next value).Still sort) : (step >>= next).Still sort := by
  obtain ⟨result, given, runs⟩ := first
  have unfolded (instances : Instances) : (step >>= next).run.run instances =
      ExceptT.bindCont next result instances := by
    change ExceptT.bindCont next (step.run.run instances).1 (step.run.run instances).2 = _
    rw [runs]
  cases result with
  | ok value =>
      obtain ⟨final, last, further⟩ := second value (given value rfl)
      exact ⟨final, last, fun instances => (unfolded instances).trans (further instances)⟩
  | error fault => exact ⟨.error fault, nofun, unfolded⟩

/-- Such a step is the same in all sessions. -/
protected theorem accords {step : Copying α} {sort : α → Prop} (still : step.Still sort)
    {states : Session → Session → Prop} : (Action.copying step).Accords states sort := by
  obtain ⟨result, given, runs⟩ := still
  intro first second kept
  change Outcomes Eq (OneOf sort) ((Action.copying step).outcome first)
      ((Action.copying step).outcome second) ∧
    states ((Action.copying step).after first) ((Action.copying step).after second)
  rw [Action.outcome_copying, Action.outcome_copying, Action.after_copying, Action.after_copying,
    runs, runs]
  refine ⟨?_, kept⟩
  cases result with
  | ok value => exact .ok ⟨rfl, given value rfl⟩
  | error fault => exact .error rfl

end Copying.Still

section Still

variable {classes : ProviderClass → Prop}

mutual
theorem Value.copy_still : (value : Value) → value.Frugal classes →
    value.copy.Still (Value.Frugal classes)
  | .list items, frugal => .bind (copyItems_still items frugal) (fun _ kept => .pure kept)
  | .tuple items, frugal => .bind (copyItems_still items frugal) (fun _ kept => .pure kept)
  | .set _ members, frugal => .bind (copyItems_still members frugal) (fun _ kept => .pure kept)
  | .map _ entries, frugal => .bind (copyEntries_still entries frugal) (fun _ kept => .pure kept)
  | .descriptor node, frugal => .bind (node.copy_still frugal) (fun _ kept => .pure kept)
  | .null, frugal | .bool _, frugal | .number _, frugal | .text _, frugal | .bytes _ _, frugal
  | .date _ _ _, frugal | .moment _, frugal | .providerClass _, frugal | .options _, frugal =>
      .pure frugal
termination_by structural value => value

theorem copyItems_still : (items : List Value) → itemsFrugal classes items →
    (copyItems items).Still (itemsFrugal classes)
  | [], _ => .pure trivial
  | item :: items, frugal =>
      .bind (item.copy_still frugal.1) (fun _ first =>
        .bind (copyItems_still items frugal.2) (fun _ others => .pure ⟨first, others⟩))
termination_by structural items => items

theorem copyEntries_still : (entries : List (Value × Value)) → entriesFrugal classes entries →
    (copyEntries entries).Still (entriesFrugal classes)
  | [], _ => .pure trivial
  | (_, value) :: rest, frugal =>
      .bind (value.copy_still frugal.1) (fun _ first =>
        .bind (copyEntries_still rest frugal.2) (fun _ others => .pure ⟨first, others⟩))
termination_by structural entries => entries

theorem Descriptor.copy_still : (node : Descriptor) → node.Frugal classes →
    node.copy.Still (Descriptor.Frugal classes)
  | .primitive _, _ => .pure trivial
  | .mapping fields _, frugal => .bind (copyFields_still fields frugal) (fun _ kept => .pure kept)
  | .array element _, frugal => .bind (element.copy_still frugal) (fun _ kept => .pure kept)
  | .ref _ _, _ => .throw _ _
termination_by structural node => node

theorem copyFields_still : (fields : List Field) → fieldsFrugal classes fields →
    (copyFields fields).Still (fieldsFrugal classes)
  | [], _ => .pure trivial
  | ⟨_, descriptor, _, _⟩ :: rest, frugal =>
      .bind (descriptor.copy_still frugal.1) (fun _ first =>
        .bind (copyFields_still rest frugal.2) (fun _ others => .pure ⟨first, others⟩))
termination_by structural fields => fields
end

theorem Entries.snapshot_still {entries : Entries} (frugal : entriesFrugal classes entries)
    (kind : MapKind) : (entries.snapshot kind).Still (entriesFrugal classes) := by
  unfold snapshot
  split
  · exact copyEntries_still _ (entriesFrugal_freeze entries frugal)
  · exact .throw _ _

theorem Entries.delivery_still {entries : Entries} (frugal : entriesFrugal classes entries) :
    entries.delivery.Still (entriesFrugal classes) := by
  unfold delivery
  cases thawed : thawEntries? entries with
  | none => exact .throw _ _
  | some given => exact copyEntries_still given (entriesFrugal_thaw entries frugal given thawed)

end Still

end RecordSchema
