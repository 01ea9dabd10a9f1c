import RecordSchema.Proofs.Session.Outcome
import RecordSchema.Proofs.Value.Parts
import RecordSchema.Provider.Snapshot
import RecordSchema.Value.Entries

namespace RecordSchema

/-! Snapshots of plain data.  Freezing data twice freezes it once, and a copy of data is the
data itself, since no object is in it. -/

def Value.PlainHere : Value → Prop
  | .null | .bool _ | .number _ | .text _ | .bytes _ _ | .list _ | .tuple _ => True
  | .map kind entries => Entries.hidden kind entries = false
  | _ => False

/-- Data built from null, truth values, numbers, texts and bytes, in mappings that can list
their entries. -/
def Value.Plain : Value → Prop :=
  Every PlainHere

def Value.KeptHere : Value → Prop
  | .null | .bool _ | .number _ | .text _ | .bytes _ _ | .tuple _ | .map .readOnly _ => True
  | _ => False

/-- Plain data in its read-only form. -/
def Value.Kept : Value → Prop :=
  Every KeptHere

theorem Value.plain_of_kept {value : Value} (kept : value.Kept) : value.Plain := by
  refine value.every_mono (fun value kept => ?_) kept
  cases value with
  | map kind entries =>
      cases kind with
      | readOnly => rfl
      | _ => exact kept.elim
  | null | bool | number | text | bytes | tuple => trivial
  | _ => exact kept.elim

/-! ### Freezing and copying -/

section Every

variable {sort kept : Value → Prop}

mutual
theorem Value.every_freeze (freezes : ∀ value, sort value → kept value.freeze) :
    (value : Value) → value.Every sort → value.freeze.Every kept
  | .list items, every | .tuple items, every =>
      ⟨freezes _ every.1, itemsEvery_freeze freezes items every.2⟩
  | .map _ entries, every => ⟨freezes _ every.1, entriesEvery_freeze freezes entries every.2⟩
  | .null, every | .bool _, every | .number _, every | .text _, every | .bytes _ _, every
  | .date _ _ _, every | .moment _, every | .set _ _, every | .providerClass _, every
  | .provider _ _, every | .descriptor _, every | .field _, every | .options _, every
  | .other _, every => freezes _ every
termination_by structural value => value

theorem itemsEvery_freeze (freezes : ∀ value, sort value → kept value.freeze) :
    (items : List Value) → itemsEvery sort items → itemsEvery kept (freezeItems items)
  | [], _ => trivial
  | item :: items, every =>
      ⟨item.every_freeze freezes every.1, itemsEvery_freeze freezes items every.2⟩
termination_by structural items => items

theorem entriesEvery_freeze (freezes : ∀ value, sort value → kept value.freeze) :
    (entries : List (Value × Value)) → entriesEvery sort entries →
      entriesEvery kept (freezeEntries entries)
  | [], _ => trivial
  | (_, value) :: rest, every =>
      ⟨value.every_freeze freezes every.1, entriesEvery_freeze freezes rest every.2⟩
termination_by structural entries => entries
end

/-- Where copying does not look for parts, it gives back the value. -/
def Value.Still (value : Value) : Prop :=
  value.items? = none → value.entries? = none → value.copy = pure value

mutual
theorem Value.copy_of_every (still : ∀ value, sort value → value.Still) :
    (value : Value) → value.Every sort → value.copy = pure value
  | .list items, every | .tuple items, every => by
      rw [Value.copy, copyItems_of_every still items every.2, pure_bind]
  | .map _ entries, every => by
      rw [Value.copy, copyEntries_of_every still entries every.2, pure_bind]
  | .null, every | .bool _, every | .number _, every | .text _, every | .bytes _ _, every
  | .date _ _ _, every | .moment _, every | .set _ _, every | .providerClass _, every
  | .provider _ _, every | .descriptor _, every | .field _, every | .options _, every
  | .other _, every => still _ every rfl rfl
termination_by structural value => value

theorem copyItems_of_every (still : ∀ value, sort value → value.Still) :
    (items : List Value) → itemsEvery sort items → copyItems items = pure items
  | [], _ => rfl
  | item :: items, every => by
      rw [copyItems, item.copy_of_every still every.1, pure_bind,
        copyItems_of_every still items every.2, pure_bind]
termination_by structural items => items

theorem copyEntries_of_every (still : ∀ value, sort value → value.Still) :
    (entries : List (Value × Value)) → entriesEvery sort entries →
      copyEntries entries = pure entries
  | [], _ => rfl
  | (_, value) :: rest, every => by
      rw [copyEntries, value.copy_of_every still every.1, pure_bind,
        copyEntries_of_every still rest every.2, pure_bind]
termination_by structural entries => entries
end

theorem freezeEntries_eq_map (entries : Entries) :
    freezeEntries entries = entries.map (fun entry => (entry.1, entry.2.freeze)) := by
  induction entries with
  | nil => rfl
  | cons entry rest induction =>
      obtain ⟨key, value⟩ := entry
      rw [freezeEntries, induction, List.map_cons]

theorem Entries.Hold.freeze {entries : Entries}
    (freezes : ∀ value, sort value → kept value.freeze) (holds : entries.Hold sort) :
    Hold kept (freezeEntries entries) := by
  rw [freezeEntries_eq_map]
  exact List.forall_mem_map.mpr (fun entry among => freezes entry.2 (holds entry among))

end Every

theorem Value.kept_freeze : (value : Value) → value.Plain → value.freeze.Kept := by
  refine every_freeze (fun value plain => ?_)
  cases value with
  | null | bool | number | text | bytes | list | tuple | map => trivial
  | _ => exact plain.elim

theorem copyEntries_of_kept {entries : Entries} (kept : entries.Hold Value.Kept) :
    copyEntries entries = pure entries := by
  refine copyEntries_of_every (fun value kept items held => ?_) entries (entriesEvery_iff.mpr kept)
  cases value with
  | null | bool | number | text | bytes => rfl
  | tuple => exact nomatch items
  | map => exact nomatch held
  | _ => exact kept.elim

/-! ### Listing entries -/

theorem entriesListable_iff {entries : Entries} :
    entriesListable entries = true ↔ ∀ entry ∈ entries, entry.2.listable = true :=
  forall_mem_of_clauses (fun entries => entriesListable entries = true) rfl
    (fun _ _ => Bool.and_eq_true_iff)

@[simp] theorem Value.listable_map_plain (entries : Entries) :
    (Value.map .plain entries).listable = entriesListable entries := by
  rw [listable, Entries.hidden]
  rfl

/-- Where `listable` does not look for parts, or looks for them in a mapping, it finds them. -/
def Value.Lists : Value → Prop
  | .map kind entries => Entries.hidden kind entries = false
  | .set _ _ => False
  | _ => True

section Every

variable {sort : Value → Prop}

mutual
theorem Value.listable_of_every (lists : ∀ value, sort value → value.Lists) :
    (value : Value) → value.Every sort → value.listable = true
  | .list items, every | .tuple items, every => itemsListable_of_every lists items every.2
  | .map kind entries, every => by
      rw [Value.listable, lists _ every.1, entriesListable_of_every lists entries every.2]
      rfl
  | .set _ _, every => (lists _ every).elim
  | .null, _ | .bool _, _ | .number _, _ | .text _, _ | .bytes _ _, _ | .date _ _ _, _
  | .moment _, _ | .providerClass _, _ | .provider _ _, _ | .descriptor _, _ | .field _, _
  | .options _, _ | .other _, _ => rfl
termination_by structural value => value

theorem itemsListable_of_every (lists : ∀ value, sort value → value.Lists) :
    (items : List Value) → itemsEvery sort items → itemsListable items = true
  | [], _ => rfl
  | item :: items, every => by
      rw [itemsListable, item.listable_of_every lists every.1,
        itemsListable_of_every lists items every.2]
      rfl
termination_by structural items => items

theorem entriesListable_of_every (lists : ∀ value, sort value → value.Lists) :
    (entries : List (Value × Value)) → entriesEvery sort entries → entriesListable entries = true
  | [], _ => rfl
  | (_, value) :: rest, every => by
      rw [entriesListable, value.listable_of_every lists every.1,
        entriesListable_of_every lists rest every.2]
      rfl
termination_by structural entries => entries
end

end Every

theorem Value.listable_of_plain (value : Value) (plain : value.Plain) : value.listable = true := by
  refine listable_of_every (fun value plain => ?_) value plain
  cases value with
  | map => exact plain
  | null | bool | number | text | bytes | list | tuple => trivial
  | _ => exact plain.elim

theorem Entries.snapshot_of_listable {entries : Entries} {kind : MapKind}
    (listable : (Value.map kind entries).listable = true) :
    entries.snapshot kind = copyEntries (freezeEntries entries) :=
  if_pos listable

theorem Entries.snapshot_of_plain {entries : Entries} (plain : entries.Hold Value.Plain) :
    entries.snapshot = pure (freezeEntries entries) := by
  have listable : (Value.map .plain entries).listable = true :=
    Value.listable_of_plain _ ⟨rfl, entriesEvery_iff.mpr plain⟩
  rw [snapshot_of_listable listable]
  exact copyEntries_of_kept (plain.freeze Value.kept_freeze)

/-! ### Laying options over a snapshot -/

mutual
@[simp] theorem Value.freeze_freeze : (value : Value) → value.freeze.freeze = value.freeze
  | .list items => congrArg Value.tuple (freezeItems_freezeItems items)
  | .tuple items => congrArg Value.tuple (freezeItems_freezeItems items)
  | .set _ members => congrArg (Value.set true) (freezeItems_freezeItems members)
  | .map _ entries => congrArg (Value.map .readOnly) (freezeEntries_freezeEntries entries)
  | .null | .bool _ | .number _ | .text _ | .bytes _ _ | .date _ _ _ | .moment _
  | .providerClass _ | .provider _ _ | .descriptor _ | .field _ | .options _ | .other _ => rfl
termination_by structural value => value

theorem freezeItems_freezeItems : (items : List Value) →
    freezeItems (freezeItems items) = freezeItems items
  | [] => rfl
  | item :: items => by
      rw [freezeItems, freezeItems, item.freeze_freeze, freezeItems_freezeItems items]
termination_by structural items => items

@[simp] theorem freezeEntries_freezeEntries : (entries : List (Value × Value)) →
    freezeEntries (freezeEntries entries) = freezeEntries entries
  | [] => rfl
  | (_, value) :: rest => by
      rw [freezeEntries, freezeEntries, value.freeze_freeze, freezeEntries_freezeEntries rest]
termination_by structural entries => entries
end

theorem freezeEntries_insert (entries : Entries) (key value : Value) :
    freezeEntries (entries.insert key value) =
      Entries.insert (freezeEntries entries) key value.freeze := by
  induction entries with
  | nil => rfl
  | cons entry rest induction =>
      obtain ⟨first, held⟩ := entry
      rw [freezeEntries, Entries.insert, Entries.insert]
      split
      · rfl
      · rw [freezeEntries, induction]

theorem freezeEntries_merge (lower upper : Entries) :
    freezeEntries (Entries.merge lower upper) =
      Entries.merge (freezeEntries lower) (freezeEntries upper) := by
  induction upper generalizing lower with
  | nil => rfl
  | cons entry rest induction =>
      change freezeEntries (Entries.merge (lower.insert entry.1 entry.2) rest) = _
      rw [induction, freezeEntries_insert]
      rfl

/-- Options laid over a snapshot are kept as those laid over what it was taken from. -/
theorem Entries.snapshot_merge_freeze {lower upper : Entries} (plain : lower.Hold Value.Plain)
    (given : upper.Hold Value.Plain) :
    (merge (freezeEntries lower) upper).snapshot = (merge lower upper).snapshot := by
  have frozen : Hold Value.Plain (freezeEntries lower) :=
    plain.freeze (fun value plain => Value.plain_of_kept (value.kept_freeze plain))
  rw [snapshot_of_plain (frozen.merge given), snapshot_of_plain (plain.merge given),
    freezeEntries_merge, freezeEntries_merge, freezeEntries_freezeEntries]

/-! ### What can be copied -/

mutual
/-- Objects of some classes cannot be copied, nor can references. -/
def Value.copyable : Value → Bool
  | .list items => itemsCopyable items
  | .tuple items => itemsCopyable items
  | .set _ members => itemsCopyable members
  | .map _ entries => entriesCopyable entries
  | .provider c _ => c.copyable
  | .descriptor node => node.copyable
  | .field ⟨_, descriptor, _, _⟩ => descriptor.copyable
  | .other _ => false
  | _ => true
termination_by structural value => value

def itemsCopyable : List Value → Bool
  | [] => true
  | item :: items => item.copyable && itemsCopyable items
termination_by structural items => items

def entriesCopyable : List (Value × Value) → Bool
  | [] => true
  | (_, value) :: rest => value.copyable && entriesCopyable rest
termination_by structural entries => entries

def Descriptor.copyable : Descriptor → Bool
  | .primitive _ => true
  | .mapping fields _ => fieldsCopyable fields
  | .array element _ => element.copyable
  | .ref _ _ => false
  | .foreign value => value.copyable
termination_by structural node => node

def fieldsCopyable : List Field → Bool
  | [] => true
  | ⟨_, descriptor, _, _⟩ :: rest => descriptor.copyable && fieldsCopyable rest
termination_by structural fields => fields
end

mutual
@[simp] theorem Value.copyable_freeze : (value : Value) → value.freeze.copyable = value.copyable
  | .list items => itemsCopyable_freeze items
  | .tuple items => itemsCopyable_freeze items
  | .set _ members => itemsCopyable_freeze members
  | .map _ entries => entriesCopyable_freeze entries
  | .null | .bool _ | .number _ | .text _ | .bytes _ _ | .date _ _ _ | .moment _
  | .providerClass _ | .provider _ _ | .descriptor _ | .field _ | .options _ | .other _ => rfl
termination_by structural value => value

theorem itemsCopyable_freeze : (items : List Value) →
    itemsCopyable (freezeItems items) = itemsCopyable items
  | [] => rfl
  | item :: items => by
      rw [freezeItems, itemsCopyable, itemsCopyable, item.copyable_freeze,
        itemsCopyable_freeze items]
termination_by structural items => items

@[simp] theorem entriesCopyable_freeze : (entries : List (Value × Value)) →
    entriesCopyable (freezeEntries entries) = entriesCopyable entries
  | [] => rfl
  | (_, value) :: rest => by
      rw [freezeEntries, entriesCopyable, entriesCopyable, value.copyable_freeze,
        entriesCopyable_freeze rest]
termination_by structural entries => entries
end

/-- The step works on every state of the objects if `works`, and on none otherwise. -/
def Copying.Decided (step : Copying α) (works : Bool) : Prop :=
  ∀ instances,
    match (step.run.run instances).1 with
    | .ok _ => works = true
    | .error fault => works = false ∧ fault = .type

namespace Copying.Decided

protected theorem pure (value : α) : (pure value : Copying α).Decided true := fun _ => rfl

protected theorem throw : (throw .type : Copying α).Decided false := fun _ => ⟨rfl, rfl⟩

protected theorem bind {step : Copying α} {next : α → Copying β} {works others : Bool}
    (first : step.Decided works) (second : ∀ value, (next value).Decided others) :
    (step >>= next).Decided (works && others) := by
  intro instances
  have given := first instances
  change match (ExceptT.bindCont next (step.run.run instances).1
    (step.run.run instances).2).1 with
    | .ok _ => (works && others) = true
    | .error fault => (works && others) = false ∧ fault = .type
  cases result : (step.run.run instances).1 with
  | ok value =>
      rw [result] at given
      rw [show works = true from given, Bool.true_and]
      exact second value _
  | error fault =>
      rw [result] at given
      rw [given.1, Bool.false_and]
      exact ⟨rfl, given.2⟩

/-- What is made of the result does not decide. -/
protected theorem map {step : Copying α} {works : Bool} (first : step.Decided works)
    (f : α → β) : (step >>= fun value => pure (f value)).Decided works := by
  have both := first.bind (fun value => Copying.Decided.pure (f value))
  rwa [Bool.and_true] at both

end Copying.Decided

theorem copyProvider_decided (c : ProviderClass) (id : Nat) :
    (copyProvider c id).Decided c.copyable := by
  unfold copyProvider
  cases copyable : c.copyable with
  | false => exact .throw
  | true =>
      cases c.hashable with
      | false => exact .pure _
      | true => exact fun _ => rfl

mutual
theorem Value.copy_decided : (value : Value) → value.copy.Decided value.copyable
  | .list items => (copyItems_decided items).map _
  | .tuple items => (copyItems_decided items).map _
  | .set _ members => (copyItems_decided members).map _
  | .map _ entries => (copyEntries_decided entries).map _
  | .provider c id => copyProvider_decided c id
  | .descriptor node => node.copy_decided.map _
  | .field ⟨_, descriptor, _, _⟩ => descriptor.copy_decided.map _
  | .other _ => .throw
  | .null | .bool _ | .number _ | .text _ | .bytes _ _ | .date _ _ _ | .moment _
  | .providerClass _ | .options _ => .pure _
termination_by structural value => value

theorem copyItems_decided : (items : List Value) →
    (copyItems items).Decided (itemsCopyable items)
  | [] => .pure _
  | item :: items => item.copy_decided.bind (fun _ => (copyItems_decided items).map _)
termination_by structural items => items

theorem copyEntries_decided : (entries : List (Value × Value)) →
    (copyEntries entries).Decided (entriesCopyable entries)
  | [] => .pure _
  | (_, value) :: rest => value.copy_decided.bind (fun _ => (copyEntries_decided rest).map _)
termination_by structural entries => entries

theorem Descriptor.copy_decided : (node : Descriptor) → node.copy.Decided node.copyable
  | .primitive _ => .pure _
  | .mapping fields _ => (copyFields_decided fields).map _
  | .array element _ => element.copy_decided.map _
  | .ref _ _ => .throw
  | .foreign value => value.copy_decided.map _
termination_by structural node => node

theorem copyFields_decided : (fields : List Field) →
    (copyFields fields).Decided (fieldsCopyable fields)
  | [] => .pure _
  | ⟨_, descriptor, _, _⟩ :: rest =>
      descriptor.copy_decided.bind (fun _ => (copyFields_decided rest).map _)
termination_by structural fields => fields
end

/-- A snapshot is taken of what can list its entries and be copied. -/
theorem Entries.snapshot_decided (entries : Entries) (kind : MapKind) :
    (entries.snapshot kind).Decided
      ((Value.map kind entries).listable && entriesCopyable entries) := by
  unfold snapshot
  cases (Value.map kind entries).listable with
  | true =>
      rw [← entriesCopyable_freeze entries]
      exact copyEntries_decided _
  | false => exact .throw

end RecordSchema
