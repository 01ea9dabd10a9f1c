import RecordSchema.Options.Reading
import RecordSchema.Proofs.Options.Renaming
import RecordSchema.Proofs.Session.Agreement

namespace RecordSchema

/-! Runs that cannot be told apart.  Neither the log nor the caches change what reading,
resolving and compiling give, nor, up to the provider objects in it, does what objects
have been made before. -/

/-- Which provider objects count as one, which stores of objects as alike, and which errors
are told apart. -/
structure Likeness where
  names : Nat → Nat
  settled : ∀ id, names (names id) = names id
  linked : Instances → Instances → Prop
  linked_refl : ∀ instances, linked instances instances
  linked_join : Joins linked
  errors : Error → Error → Prop
  errors_join : Joins errors
  strict : (∀ id, names id = id) ∨ ∀ error other, errors error other
  errors_refl : ∀ error, errors error error
  share : ∀ {first second}, linked first second → ∀ c,
    names (first.share c).1 = names (second.share c).1 ∧
      linked (first.share c).2 (second.share c).2
  clone : ∀ {first second}, linked first second → ∀ {id other}, names id = names other →
    names (first.clone id).1 = names (second.clone other).1 ∧
      linked (first.clone id).2 (second.clone other).2

namespace Likeness

/-- The very same objects and errors. -/
def exact : Likeness where
  names id := id
  settled _ := rfl
  linked := Eq
  linked_refl _ := rfl
  linked_join _ _ _ first second := first.trans second.symm
  errors := Eq
  errors_join _ _ _ first second := first.trans second.symm
  strict := .inl (fun _ => rfl)
  errors_refl _ := rfl
  share := by
    rintro first _ rfl c
    exact ⟨rfl, rfl⟩
  clone := by
    rintro first _ rfl id _ rfl
    exact ⟨rfl, rfl⟩

/-- Any objects of the same classes, and any errors. -/
def upToObjects : Likeness where
  names _ := 0
  settled _ := rfl
  linked _ _ := True
  linked_refl _ := trivial
  linked_join _ _ _ _ _ := trivial
  errors _ _ := True
  errors_join _ _ _ _ _ := trivial
  strict := .inr (fun _ _ => trivial)
  errors_refl _ := trivial
  share _ _ := ⟨rfl, trivial⟩
  clone _ _ _ _ := ⟨rfl, trivial⟩

variable (like : Likeness)

def values (value other : Value) : Prop :=
  value.rename like.names = other.rename like.names

def entries (given other : Entries) : Prop :=
  renameEntries like.names given = renameEntries like.names other

def nodes (node other : Descriptor) : Prop :=
  node.rename like.names = other.rename like.names

def sessions (session other : Session) : Prop :=
  session.environment = other.environment ∧ session.registry = other.registry ∧
    like.linked session.instances other.instances

theorem errors_of_fixed {error other : Error}
    (same : (∀ id, like.names id = id) → error = other) : like.errors error other := by
  rcases like.strict with fixed | all
  · rw [same fixed]
    exact like.errors_refl other
  · exact all error other

theorem values_rename (value : Value) : like.values value (value.rename like.names) := by
  unfold values
  rw [Value.rename_rename]
  simp only [like.settled]

theorem entries_rename (given : Entries) :
    like.entries given (renameEntries like.names given) := by
  unfold entries
  rw [renameEntries_rename]
  simp only [like.settled]

theorem nodes_rename (node : Descriptor) : like.nodes node (node.rename like.names) := by
  unfold nodes
  rw [Descriptor.rename_rename]
  simp only [like.settled]

theorem sessions_refl (session : Session) : like.sessions session session :=
  ⟨rfl, rfl, like.linked_refl _⟩

theorem sessions_join : Joins like.sessions :=
  fun _ _ _ first second =>
    ⟨first.1.trans second.1.symm, first.2.1.trans second.2.1.symm,
      like.linked_join _ _ _ first.2.2 second.2.2⟩

def items (given other : List Value) : Prop :=
  renameItems like.names given = renameItems like.names other

def fields (given other : List Field) : Prop :=
  renameFields like.names given = renameFields like.names other

def Copies (results : α → β → Prop) (left : Copying α) (right : Copying β) : Prop :=
  Agree like.linked Eq results left right

def Acts (results : α → β → Prop) (left : Action α) (right : Action β) : Prop :=
  Agree like.sessions like.errors results left right

theorem Acts.exists_ok {like : Likeness} {results : α → β → Prop} {left : Action α}
    {right : Action β} (acts : like.Acts results left right) {first second : Session}
    (related : like.sessions first second) {value : α}
    (given : left.outcome first = .ok value) :
    ∃ other, right.outcome second = .ok other ∧ results value other := by
  have both : Outcomes like.errors results (left.outcome first) (right.outcome second) :=
    (acts first second related).1
  rw [given] at both
  exact both.exists_ok

theorem entries_cons {key value other : Value} {rest others : Entries}
    (head : like.values value other) (tail : like.entries rest others) :
    like.entries ((key, value) :: rest) ((key, other) :: others) := by
  unfold values at head
  unfold entries at tail ⊢
  rw [renameEntries, renameEntries, head, tail]

theorem items_cons {value other : Value} {rest others : List Value}
    (head : like.values value other) (tail : like.items rest others) :
    like.items (value :: rest) (other :: others) := by
  unfold values at head
  unfold items at tail ⊢
  rw [renameItems, renameItems, head, tail]

theorem fields_cons {name : String} {node other : Descriptor} {optional : Bool}
    {key : Option String} {rest others : List Field} (head : like.nodes node other)
    (tail : like.fields rest others) :
    like.fields (⟨name, node, optional, key⟩ :: rest) (⟨name, other, optional, key⟩ :: others) := by
  unfold nodes at head
  unfold fields at tail ⊢
  rw [renameFields, renameFields, head, tail]

/-! ### Copies -/

theorem copyProvider_copies (c : ProviderClass) {id other : Nat}
    (same : like.names id = like.names other) :
    like.Copies like.values (copyProvider c id) (copyProvider c other) := by
  unfold copyProvider
  cases c.copyable with
  | false => exact .throw rfl
  | true =>
      cases c.hashable with
      | false => exact .pure (congrArg (Value.provider c) same)
      | true =>
          intro first second linked
          obtain ⟨copies, later⟩ := like.clone linked same
          exact ⟨.ok (congrArg (Value.provider c) copies), later⟩

mutual
theorem copy_copies : (value : Value) →
    like.Copies like.values value.copy (value.rename like.names).copy
  | .list items =>
      .bind (copyItems_copies items)
        (fun _ _ related => .pure (congrArg Value.list related))
  | .tuple items =>
      .bind (copyItems_copies items)
        (fun _ _ related => .pure (congrArg Value.tuple related))
  | .set frozen members =>
      .bind (copyItems_copies members)
        (fun _ _ related => .pure (congrArg (Value.set frozen) related))
  | .map kind entries =>
      .bind (copyEntries_copies entries)
        (fun _ _ related => .pure (congrArg (Value.map kind) related))
  | .provider c id => like.copyProvider_copies c (like.settled id).symm
  | .descriptor node =>
      .bind (nodeCopy_copies node)
        (fun _ _ related => .pure (congrArg Value.descriptor related))
  | .field ⟨name, descriptor, optional, key⟩ =>
      .bind (nodeCopy_copies descriptor)
        (fun _ _ related => .pure
          (congrArg (fun node => Value.field ⟨name, node, optional, key⟩) related))
  | .other _ => .throw rfl
  | .null | .bool _ | .number _ | .text _ | .bytes _ _ | .date _ _ _ | .moment _
  | .providerClass _ | .options _ => .pure rfl
termination_by structural value => value

theorem copyItems_copies : (items : List Value) →
    like.Copies like.items (copyItems items) (copyItems (renameItems like.names items))
  | [] => .pure rfl
  | item :: rest =>
      .bind (copy_copies item) (fun _ _ head =>
        .bind (copyItems_copies rest) (fun _ _ tail => .pure (like.items_cons head tail)))
termination_by structural items => items

theorem copyEntries_copies : (entries : List (Value × Value)) →
    like.Copies like.entries (copyEntries entries)
      (copyEntries (renameEntries like.names entries))
  | [] => .pure rfl
  | (_, value) :: rest =>
      .bind (copy_copies value) (fun _ _ head =>
        .bind (copyEntries_copies rest) (fun _ _ tail => .pure (like.entries_cons head tail)))
termination_by structural entries => entries

theorem nodeCopy_copies : (node : Descriptor) →
    like.Copies like.nodes node.copy (node.rename like.names).copy
  | .primitive _ => .pure rfl
  | .mapping fields nullable =>
      .bind (copyFields_copies fields)
        (fun _ _ related => .pure (congrArg (Descriptor.mapping · nullable) related))
  | .array element options =>
      .bind (nodeCopy_copies element)
        (fun _ _ related => .pure (congrArg (Descriptor.array · options) related))
  | .ref _ _ => .throw rfl
  | .foreign value =>
      .bind (copy_copies value)
        (fun _ _ related => .pure (congrArg Descriptor.foreign related))
termination_by structural node => node

theorem copyFields_copies : (fields : List Field) →
    like.Copies like.fields (copyFields fields) (copyFields (renameFields like.names fields))
  | [] => .pure rfl
  | ⟨_, descriptor, _, _⟩ :: rest =>
      .bind (nodeCopy_copies descriptor) (fun _ _ head =>
        .bind (copyFields_copies rest) (fun _ _ tail => .pure (like.fields_cons head tail)))
termination_by structural fields => fields
end

theorem copyEntries_alike {given other : Entries} (related : like.entries given other) :
    like.Copies like.entries (copyEntries given) (copyEntries other) :=
  .of_shade like.linked_refl like.linked_join (fun _ _ _ first second => first.trans second.symm)
    (fun _ _ _ first second => first.trans second.symm) like.copyEntries_copies related

theorem snapshot_alike {given other : Entries} (related : like.entries given other) :
    like.Copies like.entries given.snapshot other.snapshot := by
  unfold entries at related
  have listable : (Value.map .plain given).listable = (Value.map .plain other).listable := by
    rw [← @Value.listable_rename like.names, Value.rename, related, ← Value.rename,
      Value.listable_rename]
  unfold Entries.snapshot
  rw [listable]
  cases (Value.map .plain other).listable with
  | true =>
      apply like.copyEntries_alike
      unfold entries
      rw [← freezeEntries_rename, ← freezeEntries_rename, related]
  | false => exact .throw rfl

theorem delivery_alike {given other : Entries} (related : like.entries given other) :
    like.Copies like.entries given.delivery other.delivery := by
  unfold entries at related
  have thawed : (thawEntries? given).map (renameEntries like.names) =
      (thawEntries? other).map (renameEntries like.names) := by
    rw [← thawEntries?_rename, ← thawEntries?_rename, related]
  unfold Entries.delivery
  cases left : thawEntries? given with
  | none =>
      cases right : thawEntries? other with
      | none => exact .throw rfl
      | some items => simp [left, right] at thawed
  | some first =>
      cases right : thawEntries? other with
      | none => simp [left, right] at thawed
      | some second =>
          simp only [left, right, Option.map_some, Option.some.injEq] at thawed
          exact like.copyEntries_alike thawed

/-! ### Arguments and records -/

def arguments (given other : Arguments) : Prop :=
  renameArguments like.names given = renameArguments like.names other

theorem arguments_merge {lower other upper further : Arguments}
    (lowers : like.arguments lower other) (uppers : like.arguments upper further) :
    like.arguments (Arguments.merge lower upper) (Arguments.merge other further) := by
  unfold arguments at lowers uppers ⊢
  rw [← Arguments.merge_rename, ← Arguments.merge_rename, lowers, uppers]

theorem entries_merge {lower other upper further : Entries}
    (lowers : like.entries lower other) (uppers : like.entries upper further) :
    like.entries (Entries.merge lower upper) (Entries.merge other further) := by
  unfold entries at lowers uppers ⊢
  rw [← Entries.merge_rename, ← Entries.merge_rename, lowers, uppers]

theorem entries_erase {given other : Entries} (related : like.entries given other)
    (name : String) : like.entries (given.erase name) (other.erase name) := by
  unfold entries at related ⊢
  rw [← Entries.erase_rename, ← Entries.erase_rename, related]

theorem fail_acts {results : α → β → Prop} {cause other : DefinitionError}
    (same : (∀ id, like.names id = id) → cause = other) :
    like.Acts results (Action.fail cause) (Action.fail other) :=
  .throw (like.errors_of_fixed (fun fixed => by rw [same fixed]))

theorem failShowing_acts {results : α → β → Prop} {shown other : Value}
    {cause further : DefinitionError}
    (same : (∀ id, like.names id = id) → shown = other ∧ cause = further) :
    like.Acts results (Action.failShowing shown cause) (Action.failShowing other further) :=
  .throw (like.errors_of_fixed (fun fixed => by rw [(same fixed).1, (same fixed).2]))

theorem fault_acts {results : α → β → Prop} (fault : Fault) :
    like.Acts results (Action.fault fault) (Action.fault fault) :=
  .throw (like.errors_refl _)

theorem accept_acts (label : String) : (check : Checked α) →
    like.Acts Eq (Action.accept label check) (Action.accept label check)
  | .accepted _ => .pure rfl
  | .refused _ => like.fail_acts (fun _ => rfl)

theorem write_acts (logger : String) (level : Nat) (message other : String) :
    like.Acts Eq (Action.write logger level message) (Action.write logger level other) :=
  fun _ _ related => ⟨.ok rfl, related⟩

theorem nullableAny_acts : like.Acts Eq Action.nullableAny Action.nullableAny := by
  refine .bind .get (fun session other related => .pure ?_)
  rw [related.1]

theorem copying_acts {results : α → β → Prop} {left : Copying α} {right : Copying β}
    (copies : like.Copies results left right) :
    like.Acts results (Action.copying left) (Action.copying right) := by
  intro first second related
  have agreed := copies _ _ related.2.2
  change Outcomes like.errors results ((Action.copying left).outcome first)
      ((Action.copying right).outcome second) ∧
    like.sessions ((Action.copying left).after first) ((Action.copying right).after second)
  rw [Action.outcome_copying, Action.outcome_copying, Action.after_copying,
    Action.after_copying]
  generalize left.run.run first.instances = leftRun at agreed ⊢
  generalize right.run.run second.instances = rightRun at agreed ⊢
  obtain ⟨leftResult, leftLater⟩ := leftRun
  obtain ⟨rightResult, rightLater⟩ := rightRun
  obtain ⟨outcomes, linked⟩ := agreed
  refine ⟨?_, related.1, related.2.1, linked⟩
  cases outcomes with
  | ok same => exact .ok same
  | error same =>
      cases same
      exact .error (like.errors_refl _)

theorem ofEntries_acts {given other : Entries} (related : like.entries given other) :
    like.Acts like.arguments (Arguments.ofEntries given) (Arguments.ofEntries other) := by
  unfold entries at related
  have read : (Arguments.ofEntries? given).map (renameArguments like.names) =
      (Arguments.ofEntries? other).map (renameArguments like.names) := by
    rw [← Arguments.ofEntries?_rename, ← Arguments.ofEntries?_rename, related]
  unfold Arguments.ofEntries
  cases left : Arguments.ofEntries? given with
  | none =>
      cases right : Arguments.ofEntries? other with
      | none => exact like.fault_acts .type
      | some second => simp [left, right] at read
  | some first =>
      cases right : Arguments.ofEntries? other with
      | none => simp [left, right] at read
      | some second =>
          simp only [left, right, Option.map_some, Option.some.injEq] at read
          exact .pure read

theorem build_acts (kind : RecordKind) {given other : Arguments}
    (related : like.arguments given other) :
    like.Acts Eq (OptionRecord.build kind given) (OptionRecord.build kind other) := by
  refine .bind like.nullableAny_acts (fun policy _ same => ?_)
  subst same
  rw [← OptionRecord.read_rename like.names policy kind given, related,
    OptionRecord.read_rename]
  exact like.accept_acts _ _

end Likeness

end RecordSchema
