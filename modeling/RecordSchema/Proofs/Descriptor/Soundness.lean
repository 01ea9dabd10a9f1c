import RecordSchema.Proofs.Descriptor.Standard
import RecordSchema.Proofs.Options.Typing

namespace RecordSchema

/-! Sound values and nodes.  A reference keeps its options in a frozen form, and whatever is
built from sound parts is sound, so that none of its checks has to be made again. -/

mutual
/-- No container in the value can be changed, those in options of references included. -/
def Value.Frozen : Value → Prop
  | .list _ => False
  | .tuple items => itemsFrozen items
  | .set frozen members => frozen = true ∧ itemsFrozen members
  | .map kind entries => kind = .readOnly ∧ entriesFrozen entries
  | .descriptor node => node.Frozen
  | .field ⟨_, descriptor, _, _⟩ => descriptor.Frozen
  | _ => True
termination_by structural value => value

def itemsFrozen : List Value → Prop
  | [] => True
  | item :: items => item.Frozen ∧ itemsFrozen items
termination_by structural items => items

def entriesFrozen : List (Value × Value) → Prop
  | [] => True
  | (key, value) :: rest => (key.Frozen ∧ value.Frozen) ∧ entriesFrozen rest
termination_by structural entries => entries

def Descriptor.Frozen : Descriptor → Prop
  | .primitive _ => True
  | .mapping fields _ => fieldsFrozen fields
  | .array element _ => element.Frozen
  | .ref _ options => entriesFrozen options
  | .foreign value => value.Frozen
termination_by structural node => node

def fieldsFrozen : List Field → Prop
  | [] => True
  | ⟨_, descriptor, _, _⟩ :: rest => descriptor.Frozen ∧ fieldsFrozen rest
termination_by structural fields => fields
end

mutual
/-- Members and keys are what members and keys can be, and the nodes within are sound. -/
def Value.Sound (allowed : Prop) : Value → Prop
  | .list items => itemsSound allowed items
  | .tuple items => itemsSound allowed items
  | .set _ members => allHashable members = true ∧ itemsSound allowed members
  | .map _ entries => entriesSound allowed entries
  | .descriptor node => node.Sound allowed
  | .field ⟨_, descriptor, _, _⟩ => descriptor.Sound allowed
  | .options record => record.Permitted allowed
  | _ => True
termination_by structural value => value

def itemsSound (allowed : Prop) : List Value → Prop
  | [] => True
  | item :: items => item.Sound allowed ∧ itemsSound allowed items
termination_by structural items => items

def entriesSound (allowed : Prop) : List (Value × Value) → Prop
  | [] => True
  | (key, value) :: rest =>
      (key.hashable = true ∧ key.Sound allowed) ∧ value.Sound allowed ∧ entriesSound allowed rest
termination_by structural entries => entries

def Descriptor.Sound (allowed : Prop) : Descriptor → Prop
  | .primitive options => (OptionRecord.primitive options).Permitted allowed
  | .mapping fields _ =>
      (fields.map Field.name).Nodup ∧ (fields.map Field.wireKey).Nodup ∧
        fieldsSound allowed fields
  | .array element _ => element.Sound allowed
  | .ref provider options =>
      provider.Conforming ∧ entriesFrozen options ∧ entriesSound allowed options
  | .foreign _ => False
termination_by structural node => node

def fieldsSound (allowed : Prop) : List Field → Prop
  | [] => True
  | ⟨_, descriptor, _, _⟩ :: rest => descriptor.Sound allowed ∧ fieldsSound allowed rest
termination_by structural fields => fields
end

section Sound

variable {allowed : Prop}

theorem itemsSound_iff {items : List Value} :
    itemsSound allowed items ↔ ∀ item ∈ items, item.Sound allowed :=
  forall_mem_of_clauses (itemsSound allowed) trivial (fun _ _ => .rfl)

theorem entriesSound_iff {entries : Entries} :
    entriesSound allowed entries ↔
      (∀ entry ∈ entries, entry.1.hashable = true ∧ entry.1.Sound allowed) ∧
        entries.Hold (Value.Sound allowed) := by
  induction entries with
  | nil => simp [entriesSound, Entries.Hold]
  | cons entry rest induction =>
      rw [entriesSound, induction, Entries.hold_cons, List.forall_mem_cons]
      tauto

theorem fieldsSound_iff {fields : List Field} :
    fieldsSound allowed fields ↔ ∀ field ∈ fields, field.descriptor.Sound allowed :=
  forall_mem_of_clauses (fieldsSound allowed) trivial (fun ⟨_, _, _, _⟩ _ => .rfl)

theorem entriesSound_insert {entries : Entries} (sound : entriesSound allowed entries)
    {key value : Value} (hashable : key.hashable = true) (held : key.Sound allowed)
    (given : value.Sound allowed) : entriesSound allowed (entries.insert key value) := by
  induction entries with
  | nil => exact ⟨⟨hashable, held⟩, given, trivial⟩
  | cons entry rest induction =>
      obtain ⟨first, inside, tail⟩ := sound
      rw [Entries.insert]
      split
      · exact ⟨first, given, tail⟩
      · exact ⟨first, inside, induction tail⟩

theorem entriesSound_merge {lower upper : Entries} (sound : entriesSound allowed lower)
    (given : entriesSound allowed upper) : entriesSound allowed (Entries.merge lower upper) := by
  induction upper generalizing lower with
  | nil => exact sound
  | cons entry rest induction =>
      obtain ⟨⟨hashable, held⟩, inside, tail⟩ := given
      exact induction (entriesSound_insert sound hashable held inside) tail

theorem entriesSound_erase {entries : Entries} (sound : entriesSound allowed entries)
    (name : String) : entriesSound allowed (entries.erase name) := by
  obtain ⟨keys, values⟩ := entriesSound_iff.mp sound
  exact entriesSound_iff.mpr
    ⟨fun entry among => keys entry (List.mem_filter.mp among).1, values.erase name⟩

/-! ### What is hashable is frozen -/

mutual
theorem Value.frozen_of_hashable : (value : Value) → value.Sound allowed →
    value.hashable = true → value.Frozen
  | .list _, _, hashable => absurd hashable Bool.false_ne_true
  | .tuple items, sound, hashable => itemsFrozen_of_hashable items sound hashable
  | .set _ members, sound, hashable =>
      ⟨hashable, itemsFrozen_of_hashable members sound.2 sound.1⟩
  | .map _ _, _, hashable => absurd hashable Bool.false_ne_true
  | .descriptor node, sound, _ => node.frozen_of_sound sound
  | .field ⟨_, descriptor, _, _⟩, sound, _ => descriptor.frozen_of_sound sound
  | .null, _, _ | .bool _, _, _ | .number _, _, _ | .text _, _, _ | .bytes _ _, _, _
  | .date _ _ _, _, _ | .moment _, _, _ | .providerClass _, _, _ | .provider _ _, _, _
  | .options _, _, _ | .other _, _, _ => trivial
termination_by structural value => value

theorem itemsFrozen_of_hashable : (items : List Value) → itemsSound allowed items →
    allHashable items = true → itemsFrozen items
  | [], _, _ => trivial
  | item :: items, sound, hashable => by
      rw [allHashable, Bool.and_eq_true] at hashable
      exact ⟨item.frozen_of_hashable sound.1 hashable.1,
        itemsFrozen_of_hashable items sound.2 hashable.2⟩
termination_by structural items => items

theorem Descriptor.frozen_of_sound : (node : Descriptor) → node.Sound allowed → node.Frozen
  | .primitive _, _ => trivial
  | .mapping fields _, sound => fieldsFrozen_of_sound fields sound.2.2
  | .array element _, sound => element.frozen_of_sound sound
  | .ref _ _, sound => sound.2.1
termination_by structural node => node

theorem fieldsFrozen_of_sound : (fields : List Field) → fieldsSound allowed fields →
    fieldsFrozen fields
  | [], _ => trivial
  | ⟨_, descriptor, _, _⟩ :: rest, sound =>
      ⟨descriptor.frozen_of_sound sound.1, fieldsFrozen_of_sound rest sound.2⟩
termination_by structural fields => fields
end

/-! ### Freezing -/

mutual
theorem Value.hashable_freeze : (value : Value) → value.hashable = true →
    value.freeze.hashable = true
  | .list _, hashable => absurd hashable Bool.false_ne_true
  | .tuple items, hashable => allHashable_freeze items hashable
  | .set _ _, _ => rfl
  | .map _ _, hashable => absurd hashable Bool.false_ne_true
  | .null, hashable | .bool _, hashable | .number _, hashable | .text _, hashable
  | .bytes _ _, hashable | .date _ _ _, hashable | .moment _, hashable
  | .providerClass _, hashable | .provider _ _, hashable | .descriptor _, hashable
  | .field _, hashable | .options _, hashable | .other _, hashable => hashable
termination_by structural value => value

theorem allHashable_freeze : (items : List Value) → allHashable items = true →
    allHashable (freezeItems items) = true
  | [], _ => rfl
  | item :: items, hashable => by
      rw [allHashable, Bool.and_eq_true] at hashable
      rw [freezeItems, allHashable, Bool.and_eq_true]
      exact ⟨item.hashable_freeze hashable.1, allHashable_freeze items hashable.2⟩
termination_by structural items => items
end

mutual
theorem Value.freeze_sound : (value : Value) → value.Sound allowed →
    value.freeze.Frozen ∧ value.freeze.Sound allowed
  | .list items, sound => freezeItems_sound items sound
  | .tuple items, sound => freezeItems_sound items sound
  | .set _ members, sound => by
      obtain ⟨frozen, kept⟩ := freezeItems_sound members sound.2
      exact ⟨⟨rfl, frozen⟩, allHashable_freeze members sound.1, kept⟩
  | .map _ entries, sound => by
      obtain ⟨frozen, kept⟩ := freezeEntries_sound entries sound
      exact ⟨⟨rfl, frozen⟩, kept⟩
  | .descriptor node, sound => ⟨node.frozen_of_sound sound, sound⟩
  | .field ⟨_, descriptor, _, _⟩, sound => ⟨descriptor.frozen_of_sound sound, sound⟩
  | .null, sound | .bool _, sound | .number _, sound | .text _, sound | .bytes _ _, sound
  | .date _ _ _, sound | .moment _, sound | .providerClass _, sound | .provider _ _, sound
  | .options _, sound | .other _, sound => ⟨trivial, sound⟩
termination_by structural value => value

theorem freezeItems_sound : (items : List Value) → itemsSound allowed items →
    itemsFrozen (freezeItems items) ∧ itemsSound allowed (freezeItems items)
  | [], _ => ⟨trivial, trivial⟩
  | item :: items, sound => by
      obtain ⟨frozen, kept⟩ := item.freeze_sound sound.1
      obtain ⟨others, further⟩ := freezeItems_sound items sound.2
      exact ⟨⟨frozen, others⟩, kept, further⟩
termination_by structural items => items

theorem freezeEntries_sound : (entries : List (Value × Value)) → entriesSound allowed entries →
    entriesFrozen (freezeEntries entries) ∧ entriesSound allowed (freezeEntries entries)
  | [], _ => ⟨trivial, trivial⟩
  | (key, value) :: rest, sound => by
      obtain ⟨⟨hashable, held⟩, inside, tail⟩ := sound
      obtain ⟨frozen, kept⟩ := value.freeze_sound inside
      obtain ⟨others, further⟩ := freezeEntries_sound rest tail
      exact ⟨⟨⟨key.frozen_of_hashable held hashable, frozen⟩, others⟩,
        ⟨hashable, held⟩, kept, further⟩
termination_by structural entries => entries
end

/-! ### Thawing -/

mutual
theorem Value.thaw?_sound : (value : Value) → value.Sound allowed →
    ∀ thawed ∈ value.thaw?, thawed.Sound allowed
  | .list items, sound => by
      rintro _ given
      obtain ⟨thawed, inner, rfl⟩ := Option.map_eq_some_iff.mp given
      exact thawItems?_sound items sound thawed inner
  | .tuple items, sound => by
      rintro _ given
      obtain ⟨thawed, inner, rfl⟩ := Option.map_eq_some_iff.mp given
      exact thawItems?_sound items sound thawed inner
  | .set true members, sound => by
      rintro _ given
      obtain ⟨thawed, inner, last⟩ := Option.bind_eq_some_iff.mp given
      split at last
      · next hashable =>
          cases last
          exact ⟨hashable, thawItems?_sound members sound.2 thawed inner⟩
      · exact nomatch last
  | .map _ entries, sound => by
      rintro _ given
      obtain ⟨thawed, inner, rfl⟩ := Option.map_eq_some_iff.mp given
      exact thawEntries?_sound entries sound thawed inner
  | .set false _, sound | .null, sound | .bool _, sound | .number _, sound | .text _, sound
  | .bytes _ _, sound | .date _ _ _, sound | .moment _, sound | .providerClass _, sound
  | .provider _ _, sound | .descriptor _, sound | .field _, sound | .options _, sound
  | .other _, sound => by
      rintro _ given
      cases given
      exact sound
termination_by structural value => value

theorem thawItems?_sound : (items : List Value) → itemsSound allowed items →
    ∀ thawed ∈ thawItems? items, itemsSound allowed thawed
  | [], _ => by
      rintro _ given
      cases given
      trivial
  | item :: items, sound => by
      rintro _ given
      obtain ⟨first, head, last⟩ := Option.bind_eq_some_iff.mp given
      obtain ⟨others, tail, rfl⟩ := Option.map_eq_some_iff.mp last
      exact ⟨item.thaw?_sound sound.1 first head, thawItems?_sound items sound.2 others tail⟩
termination_by structural items => items

theorem thawEntries?_sound : (entries : List (Value × Value)) → entriesSound allowed entries →
    ∀ thawed ∈ thawEntries? entries, entriesSound allowed thawed
  | [], _ => by
      rintro _ given
      cases given
      trivial
  | (_, value) :: rest, sound => by
      rintro _ given
      obtain ⟨first, head, last⟩ := Option.bind_eq_some_iff.mp given
      obtain ⟨others, tail, rfl⟩ := Option.map_eq_some_iff.mp last
      exact ⟨sound.1, value.thaw?_sound sound.2.1 first head,
        thawEntries?_sound rest sound.2.2 others tail⟩
termination_by structural entries => entries
end

/-! ### Copying -/

/-- A copy is as frozen and as sound as what it is taken from, and of its hashability. -/
structure Follows (hashable : α → Bool) (frozen sound : α → Prop) (given copy : α) : Prop where
  hashes : hashable copy = hashable given
  freezes : frozen given → frozen copy
  sounds : sound given → sound copy

theorem Follows.refl {hashable : α → Bool} {frozen sound : α → Prop} (given : α) :
    Follows hashable frozen sound given given :=
  ⟨rfl, id, id⟩

variable (allowed) in
abbrev Value.Follows (given copy : Value) : Prop :=
  RecordSchema.Follows Value.hashable Value.Frozen (Value.Sound allowed) given copy

variable (allowed) in
abbrev ItemsFollow (given copy : List Value) : Prop :=
  Follows allHashable itemsFrozen (itemsSound allowed) given copy

variable (allowed) in
abbrev EntriesFollow (given copy : Entries) : Prop :=
  Follows (fun _ => true) entriesFrozen (entriesSound allowed) given copy

variable (allowed) in
abbrev Descriptor.Follows (given copy : Descriptor) : Prop :=
  RecordSchema.Follows Descriptor.hashable Descriptor.Frozen (Descriptor.Sound allowed) given copy

variable (allowed) in
/-- Copied fields have their names and keys. -/
def FieldsFollow (given copy : List Field) : Prop :=
  Follows allFieldsHashable fieldsFrozen (fieldsSound allowed) given copy ∧
    copy.map Field.name = given.map Field.name ∧ copy.map Field.wireKey = given.map Field.wireKey

theorem copyProvider_follows (c : ProviderClass) (id : Nat) :
    (copyProvider c id).Gives ((Value.provider c id).Follows allowed) := by
  unfold copyProvider
  cases c.copyable with
  | false => exact fun _ _ made => nomatch made
  | true =>
      cases c.hashable with
      | false => exact .pure (.refl _)
      | true =>
          rintro _ _ ⟨⟩
          exact ⟨rfl, fun _ => trivial, fun _ => trivial⟩

mutual
theorem Value.copy_follows : (value : Value) → value.copy.Gives (value.Follows allowed)
  | .list items => .bind (copyItems_follow items) (fun _ kept =>
      .pure ⟨rfl, id, kept.sounds⟩)
  | .tuple items => .bind (copyItems_follow items) (fun _ kept =>
      .pure ⟨kept.hashes, kept.freezes, kept.sounds⟩)
  | .set _ members => .bind (copyItems_follow members) (fun _ kept =>
      .pure ⟨rfl, And.imp_right kept.freezes,
        fun sound => ⟨kept.hashes.trans sound.1, kept.sounds sound.2⟩⟩)
  | .map _ entries => .bind (copyEntries_follow entries) (fun _ kept =>
      .pure ⟨rfl, And.imp_right kept.freezes, kept.sounds⟩)
  | .provider c id => copyProvider_follows c id
  | .descriptor node => .bind node.copy_follows (fun _ kept =>
      .pure ⟨kept.hashes, kept.freezes, kept.sounds⟩)
  | .field ⟨_, descriptor, _, _⟩ => .bind descriptor.copy_follows (fun _ kept =>
      .pure ⟨kept.hashes, kept.freezes, kept.sounds⟩)
  | .other _ => fun _ _ made => nomatch made
  | .null | .bool _ | .number _ | .text _ | .bytes _ _ | .date _ _ _ | .moment _
  | .providerClass _ | .options _ => .pure (.refl _)
termination_by structural value => value

theorem copyItems_follow : (items : List Value) →
    (copyItems items).Gives (ItemsFollow allowed items)
  | [] => .pure (.refl _)
  | item :: items => .bind item.copy_follows (fun _ first =>
      .bind (copyItems_follow items) (fun _ others =>
        .pure ⟨congrArg₂ and first.hashes others.hashes, And.imp first.freezes others.freezes,
          And.imp first.sounds others.sounds⟩))
termination_by structural items => items

theorem copyEntries_follow : (entries : List (Value × Value)) →
    (copyEntries entries).Gives (EntriesFollow allowed entries)
  | [] => .pure (.refl _)
  | (_, value) :: rest => .bind value.copy_follows (fun _ first =>
      .bind (copyEntries_follow rest) (fun _ others =>
        .pure ⟨rfl, And.imp (And.imp_right first.freezes) others.freezes,
          And.imp_right (And.imp first.sounds others.sounds)⟩))
termination_by structural entries => entries

theorem Descriptor.copy_follows : (node : Descriptor) → node.copy.Gives (node.Follows allowed)
  | .primitive _ => .pure (.refl _)
  | .mapping fields _ => .bind (copyFields_follow fields) (fun _ ⟨kept, names, keys⟩ =>
      .pure ⟨kept.hashes, kept.freezes, fun ⟨named, keyed, inside⟩ =>
        ⟨names.symm ▸ named, keys.symm ▸ keyed, kept.sounds inside⟩⟩)
  | .array element _ => .bind element.copy_follows (fun _ kept =>
      .pure ⟨kept.hashes, kept.freezes, kept.sounds⟩)
  | .ref _ _ => fun _ _ made => nomatch made
  | .foreign value => .bind value.copy_follows (fun _ kept =>
      .pure ⟨kept.hashes, kept.freezes, False.elim⟩)
termination_by structural node => node

theorem copyFields_follow : (fields : List Field) →
    (copyFields fields).Gives (FieldsFollow allowed fields)
  | [] => .pure ⟨.refl _, rfl, rfl⟩
  | ⟨name, descriptor, _, key⟩ :: rest => .bind descriptor.copy_follows (fun _ first =>
      .bind (copyFields_follow rest) (fun _ ⟨others, names, keys⟩ =>
        .pure ⟨⟨congrArg₂ and first.hashes others.hashes, And.imp first.freezes others.freezes,
          And.imp first.sounds others.sounds⟩, congrArg (name :: ·) names,
          congrArg (key.getD name :: ·) keys⟩))
termination_by structural fields => fields
end

namespace Entries

theorem snapshot_sound {entries : Entries} (sound : entriesSound allowed entries)
    (kind : MapKind) :
    (entries.snapshot kind).Gives (fun kept => entriesFrozen kept ∧ entriesSound allowed kept) := by
  obtain ⟨frozen, still⟩ := freezeEntries_sound entries sound
  refine snapshot_gives (fun instances kept made => ?_) kind
  have follows : EntriesFollow allowed _ kept := copyEntries_follow _ instances kept made
  exact ⟨follows.freezes frozen, follows.sounds still⟩

theorem delivery_sound {entries : Entries} (sound : entriesSound allowed entries) :
    entries.delivery.Gives (entriesSound allowed) := by
  unfold delivery
  cases thawed : thawEntries? entries with
  | none => exact fun _ _ made => nomatch made
  | some given =>
      intro instances kept made
      have follows : EntriesFollow allowed given kept :=
        copyEntries_follow given instances kept made
      exact follows.sounds (thawEntries?_sound entries sound given thawed)

end Entries

/-! ### Building -/

theorem OptionRecord.build_permitted (kind : RecordKind) (given : Arguments) :
    (OptionRecord.build kind given).Yields
      (fun session => session.environment.nullableAny = .accepted true → allowed)
      (OptionRecord.Permitted allowed) where
  keeps session kept := by
    have same : (OptionRecord.build kind given).after session = session := by
      unfold build
      rw [Action.after_bind_of_ok Action.outcome_nullableAny, Action.after_nullableAny]
      unfold Action.accept
      split <;> rfl
    rwa [same]
  gives session record kept made := by
    unfold build at made
    rw [Action.outcome_bind_of_ok Action.outcome_nullableAny, Action.after_nullableAny] at made
    cases checked : read session.environment.nullableAny kind given with
    | refused complaints =>
        rw [checked] at made
        exact nomatch made
    | accepted first =>
        rw [checked] at made
        cases made
        exact fun nullable => kept (permitted_of_read checked nullable)

/-- Nodes built in sessions whose settings allow a nullable `any` only where it is allowed. -/
def Standard.sound (allowed : Prop) : Standard where
  sessions session := session.environment.nullableAny = .accepted true → allowed
  values := Value.Sound allowed
  options := entriesSound allowed
  stored entries := entriesFrozen entries ∧ entriesSound allowed entries
  records := OptionRecord.Permitted allowed
  nodes := Descriptor.Sound allowed
  makes kept _ := kept
  builds := OptionRecord.build_permitted
  items sound listed := by
    rcases Value.items?_eq_some.mp listed with rfl | rfl
    · exact itemsSound_iff.mp sound
    · exact itemsSound_iff.mp sound
  held sound held := by
    obtain ⟨kind, rfl⟩ := Value.entries?_eq_some.mp held
    exact (entriesSound_iff.mp sound).2
  layer sound held := by
    obtain ⟨kind, rfl⟩ := Value.entries?_eq_some.mp held
    exact sound
  node := .rfl
  field := fun {field} => by cases field; rfl
  record := .rfl
  empty := trivial
  merge := entriesSound_merge
  erase := entriesSound_erase
  snapshot := Entries.snapshot_sound
  untouched := ⟨trivial, trivial⟩
  unset kind := by cases kind <;> exact nofun
  primitive permitted := permitted
  mapping := and_congr_right' (and_congr_right' fieldsSound_iff)
  array := .rfl
  ref object kept := ⟨object, kept⟩
  resumed sound := sound.2.2

end Sound

end RecordSchema
