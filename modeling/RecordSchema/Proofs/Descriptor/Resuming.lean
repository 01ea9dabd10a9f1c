import RecordSchema.Proofs.Descriptor.Conduct
import RecordSchema.Proofs.Document.Constancy
import RecordSchema.Proofs.Options.Layer

namespace RecordSchema

/-! Options laid over a node that was made before.  The node comes out as if it had been made with
them from the start. -/

/-- What the first action gives can be gone on with, in any session with the same settings, to
what the whole gives where the first one was started. -/
def Action.Resumes (first : Action Descriptor) (next : Descriptor → Action Descriptor)
    (whole : Action Descriptor) : Prop :=
  ∀ session node, first.outcome session = .ok node →
    ∀ later : Session, later.environment = session.environment →
      (next node).outcome later = whole.outcome session

namespace Action.Resumes

protected theorem bind {start : Action α} {first whole : α → Action Descriptor}
    {next : Descriptor → Action Descriptor} (moves : start.Within .settled)
    (resumes : ∀ value, (first value).Resumes next (whole value)) :
    (start >>= first).Resumes next (start >>= whole) := by
  intro session node given later same
  obtain ⟨value, before, last⟩ := outcome_bind_eq_ok.mp given
  rw [outcome_bind_of_ok before]
  exact resumes value _ node last later (same.trans (moves.moves session).1.symm)

protected theorem throw (error : Error) (next : Descriptor → Action Descriptor)
    (whole : Action Descriptor) : (throw error : Action Descriptor).Resumes next whole :=
  fun _ _ given => nomatch given

protected theorem fail (cause : DefinitionError) (next : Descriptor → Action Descriptor)
    (whole : Action Descriptor) : (Action.fail cause).Resumes next whole :=
  .throw _ _ _

end Action.Resumes

namespace OptionRecord

theorem outcome_build (kind : RecordKind) (given : Arguments) (session : Session) :
    (build kind given).outcome session =
      match read session.environment.nullableAny kind given with
      | .accepted record => .ok record
      | .refused complaints => .error (.definition (.refused kind.label complaints)) := by
  rw [build, Action.outcome_bind, Action.outcome_nullableAny]
  dsimp only
  cases read session.environment.nullableAny kind given <;> rfl

end OptionRecord

/-! ### Nodes that keep their options in a record -/

/-- The outcome of the action does not depend on the session. -/
def Action.Constant (action : Action α) : Prop :=
  ∀ session later : Session, action.outcome session = action.outcome later

/-- The node takes further options over those of the record. -/
def Descriptor.Reopens (node : Descriptor) (kind : RecordKind) (record : OptionRecord)
    (finish : OptionRecord → Action Descriptor) : Prop :=
  ∀ layer : Layer, node.withOptions layer.entries =
    (OptionRecord.build kind (Arguments.merge record.explicit layer.options) >>= finish)

/-- A way to make a node of a record of the kind, which can be taken up again. -/
structure Finishes (kind : RecordKind) (finish : OptionRecord → Action Descriptor) : Prop where
  constant : ∀ record, (finish record).Constant
  reopens : ∀ (record : OptionRecord) session node, record.recordKind = kind →
    (finish record).outcome session = .ok node → node.Reopens kind record finish

namespace Descriptor

def primitiveOf (kind : Kind) (record : OptionRecord) : Action Descriptor :=
  match record.primitive? with
  | some options => pure (.primitive options)
  | none => pure (.primitive (.ofKind kind))

def arrayOf (element : Descriptor) (record : OptionRecord) : Action Descriptor :=
  if element.isForeign then
    Action.fail (.refused "array" [.invalid ["element"] .alternatives])
  else pure (.array element record.arrayOptions)

theorem buildArray_eq (element : Descriptor) (given : Arguments) :
    buildArray element given = OptionRecord.build .array given >>= arrayOf element := by
  unfold buildArray arrayOf
  cases element.isForeign <;> rfl

theorem primitive_reopens (options : Primitive) :
    (primitive options).Reopens (.primitive options.kind) (.primitive options)
      (primitiveOf options.kind) := by
  intro layer
  rw [withOptions, layer.ofEntries_entries]
  rfl

theorem mapping_reopens (fields : List Field) (nullable : Bool) :
    (mapping fields nullable).Reopens .mapping (.mapping nullable)
      (fun record => mappingOf fields (record.nullable?.getD false)) := by
  intro layer
  rw [withOptions, layer.ofEntries_entries]
  rfl

theorem array_reopens (element : Descriptor) (options : ArrayOptions) :
    (array element options).Reopens .array (.array options) (arrayOf element) := by
  intro layer
  rw [withOptions, layer.ofEntries_entries, pure_bind]
  exact buildArray_eq element _

theorem primitiveOf_finishes (kind : Kind) :
    Finishes (.primitive kind) (primitiveOf kind) where
  constant record session later := by
    unfold primitiveOf
    split <;> rfl
  reopens record session node kept finished := by
    cases record with
    | primitive options =>
        cases finished
        obtain rfl : options.kind = kind := RecordKind.primitive.inj kept
        exact primitive_reopens options
    | mapping nullable => exact nomatch kept
    | array options => exact nomatch kept

theorem mappingOf_finishes (fields : List Field) :
    Finishes .mapping (fun record => mappingOf fields (record.nullable?.getD false)) where
  constant record session later := by
    unfold mappingOf
    split <;> rfl
  reopens record session node kept finished := by
    cases record with
    | primitive options => exact nomatch kept
    | array options => exact nomatch kept
    | mapping nullable =>
        unfold mappingOf at finished
        split at finished
        · cases finished
          exact mapping_reopens fields nullable
        · exact nomatch finished

theorem arrayOf_finishes (element : Descriptor) : Finishes .array (arrayOf element) where
  constant record session later := by
    unfold arrayOf
    split <;> rfl
  reopens record session node kept finished := by
    cases record with
    | primitive options => exact nomatch kept
    | mapping nullable => exact nomatch kept
    | array options =>
        unfold arrayOf at finished
        split at finished
        · exact nomatch finished
        · cases finished
          exact array_reopens element options

end Descriptor

section Records

variable {kind : RecordKind} {finish : OptionRecord → Action Descriptor}

theorem Finishes.outcome_congr (finishes : Finishes kind finish) {session later : Session}
    {given other : Arguments}
    (same : OptionRecord.read later.environment.nullableAny kind given =
      OptionRecord.read session.environment.nullableAny kind other) :
    (OptionRecord.build kind given >>= finish).outcome later =
      (OptionRecord.build kind other >>= finish).outcome session := by
  have built : (OptionRecord.build kind given).outcome later =
      (OptionRecord.build kind other).outcome session := by
    rw [OptionRecord.outcome_build, OptionRecord.outcome_build, same]
  rw [Action.outcome_bind, Action.outcome_bind, built]
  cases (OptionRecord.build kind other).outcome session with
  | ok record => exact finishes.constant record _ _
  | error error => rfl

/-- A node that keeps its options in a record takes further options as if they had been there
from the start. -/
theorem Finishes.resumes (finishes : Finishes kind finish) (lower : Arguments) (upper : Layer) :
    (OptionRecord.build kind lower >>= finish).Resumes
      (fun node => Shorthand.attached node upper.entries)
      (OptionRecord.build kind (Arguments.merge lower upper.options) >>= finish) := by
  intro session node given later same
  by_cases none : upper.entries.isEmpty = true
  · obtain rfl := Layer.isEmpty_entries.mp none
    exact given.symm
  · obtain ⟨record, built, finished⟩ := Action.outcome_bind_eq_ok.mp given
    have read : OptionRecord.read session.environment.nullableAny kind lower =
        .accepted record := by
      rw [OptionRecord.outcome_build] at built
      cases result : OptionRecord.read session.environment.nullableAny kind lower with
      | accepted first =>
          rw [result] at built
          cases built
          rfl
      | refused complaints =>
          rw [result] at built
          exact nomatch built
    have kept := OptionRecord.recordKind_of_declaredOptions (OptionRecord.read_eq_accepted read).1
    dsimp only
    rw [Shorthand.attached, if_neg none, finishes.reopens record _ node kept finished upper]
    refine finishes.outcome_congr ?_
    rw [same]
    exact OptionRecord.read_merge_explicit read upper.options

/-- The same for a node that was there before any layer. -/
theorem Descriptor.Reopens.resumes {node : Descriptor} {record : OptionRecord}
    (reopens : node.Reopens kind record finish) (finishes : Finishes kind finish)
    (lower upper : Layer) :
    (Shorthand.attached node lower.entries).Resumes
      (fun made => Shorthand.attached made upper.entries)
      (Shorthand.attached node (lower.under upper).entries) := by
  by_cases none : lower.entries.isEmpty = true
  · obtain rfl := Layer.isEmpty_entries.mp none
    rw [Layer.empty_under]
    intro session made given later same
    cases given
    dsimp only
    unfold Shorthand.attached
    split
    · rfl
    · rw [reopens upper]
      exact finishes.outcome_congr (by rw [same])
  · rw [Shorthand.attached, if_neg none, Shorthand.attached,
      if_neg (Layer.isEmpty_under none upper), reopens lower, reopens (lower.under upper)]
    change Action.Resumes _ _ (OptionRecord.build kind (Arguments.merge record.explicit
      (Arguments.merge lower.options upper.options)) >>= finish)
    rw [Arguments.merge_assoc lower.distinct]
    exact finishes.resumes _ upper

end Records

/-! ### References -/

/-- A provider that was made ready for use is used as it is, in any session. -/
theorem Value.conform_again {candidate provider : Value} {session : Session}
    (given : candidate.conform.outcome session = .ok provider) :
    provider.conform = pure provider := by
  unfold Value.conform at given
  split at given
  · exact nomatch given
  · next able =>
      split at given
      · next c =>
          split at given
          · exact nomatch given
          · cases given
            have able' : ¬ (!(Value.provider c
                (session.instances.share c).1).lackedOperations.isEmpty) = true := able
            rw [Value.conform, if_neg able']
            exact fun _ same => nomatch same
      · next other =>
          cases given
          rw [Value.conform, if_neg able]
          exact other

/-- A reference takes further options over its snapshot as over what it was made of. -/
theorem Descriptor.buildRef_resumes (candidate : Value) {own : Entries}
    (plain : own.Hold Value.Plain) {upper : Layer} (given : upper.Plain) :
    (buildRef candidate own).Resumes (fun node => Shorthand.attached node upper.entries)
      (buildRef candidate (Entries.merge own upper.entries)) := by
  intro session node made later _
  obtain ⟨provider, conforms, kept⟩ := Action.outcome_bind_eq_ok.mp made
  rw [Entries.snapshot_of_plain plain] at kept
  cases kept
  have whole : (buildRef candidate (Entries.merge own upper.entries)).outcome session =
      .ok (.ref provider (freezeEntries (Entries.merge own upper.entries))) := by
    rw [buildRef, Action.outcome_bind_of_ok conforms,
      Entries.snapshot_of_plain (plain.merge given)]
    rfl
  rw [whole]
  dsimp only
  by_cases none : upper.entries.isEmpty = true
  · obtain rfl := Layer.isEmpty_entries.mp none
    rfl
  · rw [Shorthand.attached, if_neg none, withOptions, upper.ofEntries_entries, pure_bind]
    dsimp only
    rw [buildRef, Value.conform_again conforms, pure_bind,
      Entries.snapshot_merge_freeze plain given,
      Entries.snapshot_of_plain (plain.merge given)]
    rfl

theorem Descriptor.buildRef_constant (c : ProviderClass) (id : Nat) {options : Entries}
    (plain : options.Hold Value.Plain) : (buildRef (.provider c id) options).Constant := by
  intro session later
  rw [buildRef, Entries.snapshot_of_plain plain]
  unfold Value.conform
  split <;> rfl

/-- Over no options a node is what it was; so the outcome must not depend on the session. -/
theorem Shorthand.attached_empty_resumes {node : Descriptor} {upper : Layer}
    (same : ∀ session later : Session, later.environment = session.environment →
      (node.withOptions upper.entries).outcome later =
        (node.withOptions upper.entries).outcome session) :
    (attached node Layer.empty.entries).Resumes (fun made => attached made upper.entries)
      (attached node (Layer.empty.under upper).entries) := by
  intro session made given later settings
  cases given
  rw [Layer.empty_under]
  dsimp only
  unfold attached
  split
  · rfl
  · exact same session later settings

/-- A node that was there before: one with a record, or a reference to an object with plain
options. -/
theorem Shorthand.attached_resumes {node : Descriptor}
    (ready : ∀ provider own, node = .ref provider own →
      (∃ c id, provider = .provider c id) ∧ Entries.Hold Value.Plain own)
    {lower upper : Layer} (plain : ∀ provider own, node = .ref provider own →
      lower.Plain ∧ upper.Plain) :
    (attached node lower.entries).Resumes (fun made => attached made upper.entries)
      (attached node (lower.under upper).entries) := by
  cases node with
  | primitive options =>
      exact (Descriptor.primitive_reopens options).resumes (Descriptor.primitiveOf_finishes _) _ _
  | mapping fields nullable =>
      exact (Descriptor.mapping_reopens fields nullable).resumes
        (Descriptor.mappingOf_finishes fields) _ _
  | array element options =>
      exact (Descriptor.array_reopens element options).resumes
        (Descriptor.arrayOf_finishes element) _ _
  | ref provider own =>
      obtain ⟨⟨c, id, rfl⟩, kept⟩ := ready provider own rfl
      obtain ⟨below, above⟩ := plain _ own rfl
      have takes (layer : Layer) : (Descriptor.ref (.provider c id) own).withOptions layer.entries =
          Descriptor.buildRef (.provider c id) (Entries.merge own layer.entries) := by
        rw [Descriptor.withOptions, layer.ofEntries_entries, pure_bind]
      by_cases none : lower.entries.isEmpty = true
      · obtain rfl := Layer.isEmpty_entries.mp none
        refine attached_empty_resumes (fun session later _ => ?_)
        rw [takes]
        exact Descriptor.buildRef_constant c id (kept.merge above) later session
      · rw [attached, if_neg none, attached, if_neg (Layer.isEmpty_under none upper), takes, takes,
          ← lower.merge_entries]
        have merged := Entries.merge_merge lower.distinct own upper.options
        rw [← Entries.merge_ofNames] at merged
        change Action.Resumes _ _ (Descriptor.buildRef _ (Entries.merge own
          (Entries.merge (Entries.ofNames lower.options) (Entries.ofNames upper.options))))
        rw [merged]
        exact Descriptor.buildRef_resumes _ (kept.merge below) above
  | foreign value =>
      by_cases none : lower.entries.isEmpty = true
      · obtain rfl := Layer.isEmpty_entries.mp none
        refine attached_empty_resumes (fun session later _ => ?_)
        rw [Descriptor.withOptions, upper.ofEntries_entries]
        rfl
      · rw [attached, if_neg none, Descriptor.withOptions, lower.ofEntries_entries]
        exact fun _ _ given => nomatch given

/-! ### Cores -/

namespace Shorthand

/-- What is asked of a core: an existing reference holds an object and plain options. -/
def Ready (core : Value) : Prop :=
  ∀ provider own, core = .descriptor (.ref provider own) →
    (∃ c id, provider = .provider c id) ∧ Entries.Hold Value.Plain own

/-- Whether the core refers to a provider, so that its options are kept as a snapshot. -/
def refers (core : Value) : Bool :=
  (recordKind? core).isNone

theorem named_resumes (registry : Registry) (name : String) {lower upper : Layer}
    (plain : refers (.text name) = true → lower.Plain ∧ upper.Plain) :
    (named registry name lower.entries).Resumes (fun node => attached node upper.entries)
      (named registry name (lower.under upper).entries) := by
  unfold named
  cases known : Kind.ofName? name with
  | some kind =>
      dsimp only
      rw [lower.ofEntries_entries, (lower.under upper).ofEntries_entries]
      exact (Descriptor.primitiveOf_finishes kind).resumes lower.options upper
  | none =>
      obtain ⟨below, above⟩ := plain (by rw [refers, recordKind?, known]; rfl)
      dsimp only
      split
      · rw [← lower.merge_entries]
        exact Descriptor.buildRef_resumes _ below above
      · exact .fail _ _ _

theorem described_resumes (registry : Registry) {core : Value} (bare : isLayer core = false)
    (ready : Ready core) {lower upper : Layer}
    (plain : refers core = true → lower.Plain ∧ upper.Plain) :
    (described registry core lower.entries).Resumes (fun node => attached node upper.entries)
      (described registry core (lower.under upper).entries) := by
  cases core with
  | tuple items => exact nomatch bare
  | map kind entries =>
      refine .bind (listed_within kind entries) (fun _ => ?_)
      refine .bind (parseFields_within registry entries) (fun fields => ?_)
      rw [lower.ofEntries_entries, (lower.under upper).ofEntries_entries]
      exact (Descriptor.mappingOf_finishes fields).resumes lower.options upper
  | list items =>
      match items with
      | [] => exact .fail _ _ _
      | [element] =>
          refine .bind (parse_within registry element []) (fun parsed => ?_)
          rw [lower.ofEntries_entries, (lower.under upper).ofEntries_entries, pure_bind, pure_bind,
            Descriptor.buildArray_eq, Descriptor.buildArray_eq]
          exact (Descriptor.arrayOf_finishes parsed.descriptor).resumes lower.options upper
      | _ :: _ :: _ => exact .fail _ _ _
  | descriptor node =>
      refine attached_resumes (fun provider own same => ready provider own (congrArg _ same)) ?_
      rintro provider own rfl
      exact plain rfl
  | text name => exact named_resumes registry name plain
  | null | bool value | number value => exact .throw _ _ _
  | bytes mutable data =>
      cases mutable with
      | false => exact .throw _ _ _
      | true =>
          obtain ⟨below, above⟩ := plain rfl
          rw [← lower.merge_entries]
          exact Descriptor.buildRef_resumes _ below above
  | _ =>
      obtain ⟨below, above⟩ := plain rfl
      rw [← lower.merge_entries]
      exact Descriptor.buildRef_resumes _ below above

/-- Reading a core is reading its field options and then its node. -/
theorem outcome_parse_core {core : Value} (bare : isLayer core = false) (options : Entries)
    (registry : Option Registry) (session : Session) :
    (core.parse options registry).outcome session =
      (fieldOptions options >>= fun own =>
        described (Registry.orElse registry session.registry) core own.rest).outcome session := by
  rw [Value.parse, Action.outcome_bind_of_ok Action.outcome_get, Action.after_get]
  simp only [parse_of_core _ bare, bind_assoc, pure_bind, bind_pure]

theorem fieldOptions_cases (options : Entries) :
    (∃ own, fieldOptions options = pure own) ∨
      ∃ error, fieldOptions options = throw error := by
  unfold fieldOptions
  obtain ⟨optional, given⟩ | ⟨error, failed⟩ := optionalOf_cases options
  · obtain ⟨key, given'⟩ | ⟨error, failed⟩ := keyOf_cases options
    · rw [given, given']
      exact .inl ⟨_, rfl⟩
    · rw [given, failed]
      exact .inr ⟨error, rfl⟩
  · rw [failed]
    exact .inr ⟨error, rfl⟩

theorem rest_of_fieldOptions {layer : Layer} {own : FieldOptions}
    (given : fieldOptions layer.entries = pure own) : own.rest = layer.ofNode.entries := by
  rw [← layer.nodeOptions_entries]
  refine (fieldOptions_rest layer.entries).gives {} own trivial ?_
  rw [given]
  rfl

end Shorthand

end RecordSchema
