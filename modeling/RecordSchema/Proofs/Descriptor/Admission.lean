import RecordSchema.Proofs.Descriptor.Layering
import RecordSchema.Proofs.Options.Complaints

namespace RecordSchema

/-! Which options a node can be made with.  However a node of a kind is made, the complaints
about its options decide whether it is, and each option is judged on its own. -/

/-- The complaints decide about the action: it fails with them all, and without any it gives a
result. -/
structure Action.DecidedBy (action : Action α) (session : Session) (label : String)
    (complaints : List Complaint) : Prop where
  makes : complaints = [] → ∃ value, action.outcome session = .ok value
  refuses : complaints ≠ [] →
    action.outcome session = .error (.definition (.refused label complaints))

/-- The action gives a result, whatever the session. -/
def Action.Goes (action : Action α) : Prop :=
  ∀ session, ∃ value, action.outcome session = .ok value

/-- The message of the error of a description, if the action fails with one. -/
def Action.complaint? (action : Action α) (session : Session) : Option String :=
  match action.outcome session with
  | .error (.definition cause) => some cause.message
  | _ => none

namespace Action.DecidedBy

variable {session : Session} {label : String} {complaints : List Complaint}

protected theorem pure (value : α) : (pure value : Action α).DecidedBy session label [] where
  makes _ := ⟨value, rfl⟩
  refuses said := absurd rfl said

/-- Before the complaints come up, nothing fails. -/
protected theorem after {action : Action α} {next : α → Action β} {value : α}
    (given : action.outcome session = .ok value)
    (decided : (next value).DecidedBy (action.after session) label complaints) :
    (action >>= next).DecidedBy session label complaints where
  makes silent := by
    rw [outcome_bind_of_ok given]
    exact decided.makes silent
  refuses said := by
    rw [outcome_bind_of_ok given]
    exact decided.refuses said

/-- Once there are no complaints, nothing fails. -/
protected theorem before {action : Action α} {next : α → Action β}
    (decided : action.DecidedBy session label complaints) (goes : ∀ value, (next value).Goes) :
    (action >>= next).DecidedBy session label complaints where
  makes silent := by
    obtain ⟨value, given⟩ := decided.makes silent
    rw [outcome_bind_of_ok given]
    exact goes value _
  refuses said := by
    rw [outcome_bind, decided.refuses said]

protected theorem congr {action other : Action α} (same : action.outcome session =
    other.outcome session) (decided : other.DecidedBy session label complaints) :
    action.DecidedBy session label complaints where
  makes silent := same ▸ decided.makes silent
  refuses said := same ▸ decided.refuses said

theorem ok_iff {action : Action α} (decided : action.DecidedBy session label complaints) :
    (∃ value, action.outcome session = .ok value) ↔ complaints = [] := by
  constructor
  · rintro ⟨value, given⟩
    by_contra said
    exact nomatch given.symm.trans (decided.refuses said)
  · exact decided.makes

theorem complaint?_eq {action : Action α} (decided : action.DecidedBy session label complaints) :
    action.complaint? session =
      if complaints.isEmpty then none else some (Complaint.describeAll label complaints) := by
  unfold complaint?
  by_cases silent : complaints = []
  · obtain ⟨value, given⟩ := decided.makes silent
    rw [given, silent]
    rfl
  · rw [decided.refuses silent, if_neg (by simpa using silent)]
    rfl

end Action.DecidedBy

section Records

variable {kind : RecordKind} {given : Arguments} {session : Session}

theorem OptionRecord.build_decided (known : kind ≠ .primitive .any) (given : Arguments)
    (session : Session) :
    (OptionRecord.build kind given).DecidedBy session kind.label (kind.complaints given) where
  makes silent := by
    obtain ⟨record, -, accepted⟩ :=
      OptionRecord.read_of_complaints_nil session.environment.nullableAny known silent
    rw [OptionRecord.outcome_build, accepted]
    exact ⟨record, rfl⟩
  refuses said := by
    rw [OptionRecord.outcome_build, OptionRecord.read_of_complaints _ said]

theorem Arguments.ofEntries_ofNames (nameable : reservedName ∉ given.map Prod.fst) :
    Arguments.ofEntries (Entries.ofNames given) = pure given := by
  rw [Arguments.ofEntries, Arguments.ofEntries?_ofNames nameable]

namespace Descriptor

theorem primitiveOf_goes (kind : Kind) (record : OptionRecord) :
    (primitiveOf kind record).Goes := by
  intro session
  unfold primitiveOf
  split
  · exact ⟨_, rfl⟩
  · exact ⟨_, rfl⟩

theorem mappingOf_goes {fields : List Field} (apart : clashes fields = []) (nullable : Bool) :
    (mappingOf fields nullable).Goes := by
  intro session
  rw [mappingOf, apart]
  exact ⟨_, rfl⟩

theorem clashes_of_mappingOf {fields : List Field} {nullable : Bool} {node : Descriptor}
    (made : (mappingOf fields nullable).outcome session = .ok node) : clashes fields = [] := by
  unfold mappingOf at made
  split at made
  · next apart => exact apart
  · exact nomatch made

theorem arrayOf_goes {element : Descriptor} (own : element.isForeign = false)
    (record : OptionRecord) : (arrayOf element record).Goes := by
  intro session
  rw [arrayOf, own]
  exact ⟨_, rfl⟩

theorem isForeign_of_arrayOf {element node : Descriptor} {record : OptionRecord}
    (made : (arrayOf element record).outcome session = .ok node) : element.isForeign = false := by
  unfold arrayOf at made
  split at made
  · exact nomatch made
  · next own => simpa using own

theorem Checked.isForeign {node : Descriptor} (checked : node.Checked) :
    node.isForeign = false := by
  cases node with
  | foreign value => exact checked.elim
  | _ => rfl

/-- A node that was made before takes options as if it were made anew. -/
theorem withOptions_decided {node : Descriptor} (checked : node.Checked)
    (sort : Shorthand.recordKind? (.descriptor node) = some kind) (known : kind ≠ .primitive .any)
    (distinct : given.Distinct) (nameable : Arguments.reservedName ∉ given.map Prod.fst)
    (session : Session) :
    (node.withOptions (Entries.ofNames given)).DecidedBy session kind.label
      (kind.complaints given) := by
  have merged (record : OptionRecord) (same : record.recordKind = kind) :
      kind.complaints (Arguments.merge record.explicit given) = kind.complaints given :=
    RecordKind.complaints_merge (same ▸ RecordKind.complaints_explicit record) distinct
  cases node with
  | primitive options =>
      cases sort
      rw [withOptions, Arguments.ofEntries_ofNames nameable, pure_bind,
        ← merged (.primitive options) rfl]
      exact (OptionRecord.build_decided known _ session).before (primitiveOf_goes options.kind)
  | mapping fields nullable =>
      cases sort
      rw [withOptions, Arguments.ofEntries_ofNames nameable, pure_bind,
        ← merged (.mapping nullable) rfl]
      have apart := clashes_eq_nil.mpr ⟨checked.1, checked.2.1⟩
      exact (OptionRecord.build_decided known _ session).before
        (fun record => mappingOf_goes apart _)
  | array element options =>
      cases sort
      rw [withOptions, Arguments.ofEntries_ofNames nameable, pure_bind,
        ← merged (.array options) rfl]
      dsimp only
      rw [buildArray_eq]
      exact (OptionRecord.build_decided known _ session).before
        (arrayOf_goes (Checked.isForeign checked))
  | ref provider options => cases sort
  | foreign value => cases sort

end Descriptor

/-! ### Descriptions -/

namespace Shorthand

variable {registry : Registry} {core : Value} {node : Descriptor}

theorem fieldOptions_ofNames (required : "optional" ∉ given.map Prod.fst)
    (unkeyed : "key" ∉ given.map Prod.fst) :
    fieldOptions (Entries.ofNames given) = pure ⟨false, none, Entries.ofNames given⟩ := by
  have optional : optionalOf (Entries.ofNames given) = pure false := by
    rw [optionalOf, Entries.get?_ofNames, Arguments.get?_eq_none.mpr required]
  have key : keyOf (Entries.ofNames given) = pure none := by
    rw [keyOf, Entries.get?_ofNames, Arguments.get?_eq_none.mpr unkeyed]
  have kept {name : String} (absent : name ∉ given.map Prod.fst) :
      Entries.erase (Entries.ofNames given) name = Entries.ofNames given := by
    rw [Entries.erase_ofNames, Arguments.restrict_of_not_mem absent]
  rw [fieldOptions, optional, key, pure_bind, pure_bind, kept required, kept unkeyed]

/-- A core that is good without options takes them as its kind does. -/
theorem described_decided (bare : isLayer core = false)
    (ready : ∀ made, core = .descriptor made → made.Checked)
    (sort : recordKind? core = some kind) (known : kind ≠ .primitive .any)
    (plain : (described registry core []).outcome session = .ok node)
    (distinct : given.Distinct) (nameable : Arguments.reservedName ∉ given.map Prod.fst) :
    (described registry core (Entries.ofNames given)).DecidedBy session kind.label
      (kind.complaints given) := by
  have unasked : Arguments.ofEntries [] = pure [] := rfl
  cases core with
  | text name =>
      obtain ⟨primitive, named', rfl⟩ := Option.map_eq_some_iff.mp sort
      rw [described, named, named']
      dsimp only
      rw [Arguments.ofEntries_ofNames nameable, pure_bind]
      exact (OptionRecord.build_decided known _ session).before
        (Descriptor.primitiveOf_goes primitive)
  | map held entries =>
      cases sort
      obtain ⟨_, lists, rest⟩ := Action.outcome_bind_eq_ok.mp plain
      obtain ⟨fields, parsed, built⟩ := Action.outcome_bind_eq_ok.mp rest
      rw [unasked, pure_bind] at built
      obtain ⟨record, -, made⟩ := Action.outcome_bind_eq_ok.mp built
      have apart := Descriptor.clashes_of_mappingOf made
      refine .after lists (.after parsed ?_)
      rw [Arguments.ofEntries_ofNames nameable, pure_bind]
      exact (OptionRecord.build_decided known _ _).before
        (fun record => Descriptor.mappingOf_goes apart _)
  | list items =>
      cases sort
      rcases items with _ | ⟨element, _ | ⟨second, rest⟩⟩
      case nil => cases plain
      case cons.cons => cases plain
      case cons.nil =>
          obtain ⟨part, parsed, built⟩ := Action.outcome_bind_eq_ok.mp plain
          rw [unasked, pure_bind, Descriptor.buildArray_eq] at built
          obtain ⟨record, -, made⟩ := Action.outcome_bind_eq_ok.mp built
          refine .after parsed ?_
          rw [Arguments.ofEntries_ofNames nameable, pure_bind, Descriptor.buildArray_eq]
          exact (OptionRecord.build_decided known _ _).before
            (Descriptor.arrayOf_goes (Descriptor.isForeign_of_arrayOf made))
  | descriptor other =>
      rw [described, attached]
      split
      · next empty =>
          obtain rfl : given = [] := by simpa [Entries.ofNames] using empty
          rw [RecordKind.complaints_nil]
          exact .pure other
      · exact Descriptor.withOptions_decided (ready other rfl) sort known distinct nameable session
  | tuple items => cases bare
  | _ => cases sort

end Shorthand

/-- A core that is read as a node of the kind when no options are given. -/
structure Value.Makes (core : Value) (registry : Option Registry) (session : Session)
    (kind : RecordKind) : Prop where
  bare : Shorthand.isLayer core = false
  ready : ∀ made, core = .descriptor made → made.Checked
  sort : Shorthand.recordKind? core = some kind
  reads : ∃ node, (core.parse [] registry).outcome session = .ok node

/-- A core read with options of names that mean nothing to the field it stands at. -/
theorem Value.Makes.decided {registry : Option Registry} {core : Value}
    (makes : core.Makes registry session kind) (known : kind ≠ .primitive .any)
    (distinct : given.Distinct)
    (free : ∀ name ∈ ["self", "optional", "key"], name ∉ given.map Prod.fst) :
    (core.parse (Entries.ofNames given) registry).DecidedBy session kind.label
      (kind.complaints given) := by
  obtain ⟨bare, ready, sort, node, plain⟩ := makes
  have unasked : Shorthand.fieldOptions [] = pure ⟨false, none, []⟩ := rfl
  have asked := Shorthand.fieldOptions_ofNames (free "optional" (.tail _ (.head _)))
    (free "key" (.tail _ (.tail _ (.head _))))
  rw [Shorthand.outcome_parse_core bare, unasked, pure_bind] at plain
  refine .congr (Shorthand.outcome_parse_core bare _ registry session) ?_
  rw [asked, pure_bind]
  exact Shorthand.described_decided bare ready sort known plain distinct (free "self" (.head _))

/-! ### Constructors -/

namespace Blueprint

theorem optionRecord_decided (known : kind ≠ .primitive .any) (given : Arguments)
    (session : Session) :
    ((optionRecord kind).build given).DecidedBy session kind.label (kind.complaints given) :=
  (OptionRecord.build_decided known given session).before (fun record _ => ⟨.options record, rfl⟩)

section Handed

variable {arguments : Arguments} {held : MapKind}
  (handed : arguments.get? "options" = some (.map held (Entries.ofNames given)))
  (nameable : Arguments.reservedName ∉ given.map Prod.fst)
include handed nameable

theorem recordOption_of_handed (kind : RecordKind) :
    recordOption kind arguments = do
      return .accepted (← OptionRecord.build kind given) := by
  rw [recordOption, handed]
  dsimp only
  rw [Arguments.ofEntries_ofNames nameable, pure_bind]

theorem primitiveOptions_of_handed (sort : Kind) :
    primitiveOptions sort arguments = do
      let record ← OptionRecord.build (.primitive sort) given
      return .accepted (record.primitive?.getD (.ofKind sort)) := by
  rw [primitiveOptions, handed]
  dsimp only
  rw [Arguments.ofEntries_ofNames nameable, pure_bind]

end Handed

theorem primitive_decided {sort : Kind} (known : RecordKind.primitive sort ≠ .primitive .any)
    (held : MapKind) (nameable : Arguments.reservedName ∉ given.map Prod.fst)
    (session : Session) :
    (primitive.build [("kind", .text sort.name),
      ("options", .map held (Entries.ofNames given))]).DecidedBy session
        (RecordKind.primitive sort).label ((RecordKind.primitive sort).complaints given) := by
  let arguments : Arguments :=
    [("kind", .text sort.name), ("options", .map held (Entries.ofNames given))]
  have handed : arguments.get? "options" = some (.map held (Entries.ofNames given)) := rfl
  have options := primitiveOptions_of_handed handed nameable sort
  have named : arguments.get? "kind" = some (.text sort.name) := rfl
  have hashable : (Value.text sort.name).hashable = true := rfl
  have reads : kindReason (.text sort.name) = .ok sort := by cases sort <;> rfl
  have built : primitive.build arguments = do
      let record ← OptionRecord.build (.primitive sort) given
      return .descriptor (.primitive (record.primitive?.getD (.ofKind sort))) := by
    simp only [build, buildPrimitive, named, hashable, reads, options, bind_assoc, pure_bind,
      Bool.not_true, Bool.false_eq_true, if_false]
    rfl
  change (primitive.build arguments).DecidedBy session _ _
  rw [built]
  exact (OptionRecord.build_decided known given session).before (fun _ _ => ⟨_, rfl⟩)

theorem nested_node (fuel : Nat) (place : String) (element : Descriptor) :
    (nested fuel).node place (.descriptor element) = pure (.accepted element) := by
  induction fuel with
  | zero => rfl
  | succ fuel induction => exact induction

theorem nested_field (fuel : Nat) (field : Field) :
    (nested fuel).field (.field field) = pure (.accepted field) := by
  induction fuel with
  | zero => rfl
  | succ fuel induction => exact induction

theorem eachItem_fields (fuel position : Nat) (fields : List Field) :
    eachItem (nested fuel).field position (fields.map Value.field) = pure (.accepted fields) := by
  induction fields generalizing position with
  | nil => rfl
  | cons field rest induction =>
      rw [List.map_cons, eachItem, nested_field, pure_bind, induction, pure_bind]
      rfl

theorem mapping_decided {fields : List Field} (apart : Descriptor.clashes fields = [])
    (held : MapKind) (nameable : Arguments.reservedName ∉ given.map Prod.fst)
    (session : Session) :
    (mapping.build [("fields", .list (fields.map Value.field)),
      ("options", .map held (Entries.ofNames given))]).DecidedBy session
        RecordKind.mapping.label (RecordKind.mapping.complaints given) := by
  let arguments : Arguments :=
    [("fields", .list (fields.map Value.field)), ("options", .map held (Entries.ofNames given))]
  have handed : arguments.get? "options" = some (.map held (Entries.ofNames given)) := rfl
  have options := recordOption_of_handed handed nameable .mapping
  have listed : arguments.get? "fields" = some (.list (fields.map Value.field)) := rfl
  have built : mapping.build arguments = do
      let record ← OptionRecord.build .mapping given
      return .descriptor (.mapping fields (record.nullable?.getD false)) := by
    simp only [build, buildMapping, listed, Value.items?, fieldsOf, eachItem_fields, options,
      bind_assoc, pure_bind]
    simp only [Checked.within, Checked.map, Checked.both, Action.accept, pure_bind,
      Descriptor.mappingOf, apart]
  change (mapping.build arguments).DecidedBy session _ _
  rw [built]
  have known : RecordKind.mapping ≠ .primitive .any := by decide
  exact (OptionRecord.build_decided known given session).before (fun _ _ => ⟨_, rfl⟩)

theorem array_decided (element : Descriptor) (held : MapKind)
    (nameable : Arguments.reservedName ∉ given.map Prod.fst) (session : Session) :
    (array.build [("element", .descriptor element),
      ("options", .map held (Entries.ofNames given))]).DecidedBy session
        RecordKind.array.label (RecordKind.array.complaints given) := by
  let arguments : Arguments :=
    [("element", .descriptor element), ("options", .map held (Entries.ofNames given))]
  have handed : arguments.get? "options" = some (.map held (Entries.ofNames given)) := rfl
  have options := recordOption_of_handed handed nameable .array
  have found : arguments.get? "element" = some (.descriptor element) := rfl
  have built : array.build arguments = do
      let record ← OptionRecord.build .array given
      return .descriptor (.array element record.arrayOptions) := by
    simp only [build, buildArray, found, nested_node, options, bind_assoc, pure_bind]
    rfl
  change (array.build arguments).DecidedBy session _ _
  rw [built]
  have known : RecordKind.array ≠ .primitive .any := by decide
  exact (OptionRecord.build_decided known given session).before (fun _ _ => ⟨_, rfl⟩)

end Blueprint

end Records

/-! ### All ways -/

/-- The names under which the mapping itself looks for how to list its entries. -/
def MapKind.ownNames : MapKind → List String
  | .record => ["items"]
  | .plain | .readOnly => []

theorem MapKind.not_hidden_ofNames {held : MapKind} {given : Arguments}
    (free : ∀ name ∈ held.ownNames, name ∉ given.map Prod.fst) :
    Entries.hidden held (Entries.ofNames given) = false := by
  cases held with
  | plain | readOnly => rfl
  | record =>
      have absent : Entries.get? (Entries.ofNames given) "items" = none := by
        rw [Entries.get?_ofNames]
        exact Arguments.get?_eq_none.mpr (free "items" (.head _))
      rw [Entries.hidden, Entries.contains, absent]
      rfl

/-- A way to make something of the kind in a session with options that go by name, and the names
that mean something else there. -/
inductive Making (session : Session) :
    RecordKind → List String → (Arguments → Action Value) → Prop
  /-- The record of the options itself. -/
  | record (kind : RecordKind) :
      Making session kind ["self"] (Blueprint.optionRecord kind).build
  | primitive (sort : Kind) (held : MapKind) :
      Making session (.primitive sort) ["self"] (fun given => Blueprint.primitive.build
        [("kind", .text sort.name), ("options", .map held (Entries.ofNames given))])
  | mapping {fields : List Field} (apart : Descriptor.clashes fields = []) (held : MapKind) :
      Making session .mapping ["self"] (fun given => Blueprint.mapping.build
        [("fields", .list (fields.map Value.field)),
          ("options", .map held (Entries.ofNames given))])
  | array (element : Descriptor) (held : MapKind) :
      Making session .array ["self"] (fun given => Blueprint.array.build
        [("element", .descriptor element), ("options", .map held (Entries.ofNames given))])
  /-- The node again, with the options over its own. -/
  | again {node : Descriptor} {kind : RecordKind} (checked : node.Checked)
      (sort : Shorthand.recordKind? (.descriptor node) = some kind) :
      Making session kind ["self"] (fun given => do
        return .descriptor (← node.withOptions (Entries.ofNames given)))
  /-- A description that is good without options, read with them. -/
  | read {core : Value} {registry : Option Registry} {kind : RecordKind}
      (makes : core.Makes registry session kind) :
      Making session kind ["self", "optional", "key"] (fun given => do
        return .descriptor (← core.parse (Entries.ofNames given) registry))
  | pair {core : Value} {registry : Option Registry} {kind : RecordKind}
      (makes : core.Makes registry session kind) (held : MapKind) :
      Making session kind ["self", "optional", "key"] (fun given => do
        return .descriptor (←
          Value.parse (.tuple [core, .map held (Entries.ofNames given)]) [] registry))
  | typed {core : Value} {registry : Option Registry} {kind : RecordKind}
      (makes : core.Makes registry session kind) (held : MapKind) :
      Making session kind (["self", "optional", "key", "$type"] ++ held.ownNames) (fun given => do
        return .descriptor (← Value.parse
          (.map held ((.text Shorthand.typeKey, core) :: Entries.ofNames given)) [] registry))

namespace Making

variable {session : Session} {kind : RecordKind} {reserved : List String}
  {make : Arguments → Action Value} {given : Arguments}

theorem decided (making : Making session kind reserved make) (known : kind ≠ .primitive .any)
    (distinct : given.Distinct) (free : ∀ name ∈ reserved, name ∉ given.map Prod.fst) :
    (make given).DecidedBy session kind.label (kind.complaints given) := by
  have wraps (node : Descriptor) : (pure (.descriptor node) : Action Value).Goes :=
    fun _ => ⟨_, rfl⟩
  cases making with
  | record => exact Blueprint.optionRecord_decided known given session
  | primitive sort held =>
      exact Blueprint.primitive_decided known held (free _ (.head _)) session
  | mapping apart held => exact Blueprint.mapping_decided apart held (free _ (.head _)) session
  | array element held => exact Blueprint.array_decided element held (free _ (.head _)) session
  | again checked sort =>
      exact (Descriptor.withOptions_decided checked sort known distinct (free _ (.head _))
        session).before wraps
  | read makes => exact (makes.decided known distinct free).before wraps
  | pair makes held => exact (makes.decided known distinct free).before wraps
  | typed makes held =>
      obtain ⟨reserved, own⟩ := List.forall_mem_append.mp free
      have others : ∀ name ∈ ["self", "optional", "key"], name ∉ given.map Prod.fst :=
        fun name among => reserved name (List.mem_append_left ["$type"] among)
      have untyped := reserved "$type" (by simp)
      let layer : Layer := ⟨given, distinct, free "self" (.head _), untyped⟩
      have same : Entries.ofNames given = layer.entries := rfl
      have lists : Entries.hidden held layer.entries = false := MapKind.not_hidden_ofNames own
      dsimp only
      rw [same, Value.parse_typed _ _ lists]
      exact (makes.decided known distinct others).before wraps

theorem decided_single (making : Making session kind reserved make)
    (known : kind ≠ .primitive .any) (free : ∀ name ∈ reserved, name ∉ given.map Prod.fst)
    {entry : String × Value} (among : entry ∈ given) :
    (make [entry]).DecidedBy session kind.label (kind.complaints [entry]) := by
  refine making.decided known (List.nodup_singleton _) (fun name taken named => ?_)
  rw [List.map_singleton, List.mem_singleton] at named
  apply free name taken
  rw [named]
  exact List.mem_map_of_mem among

theorem complaints_eq_nil_iff (making : Making session kind reserved make)
    (known : kind ≠ .primitive .any) (distinct : given.Distinct)
    (free : ∀ name ∈ reserved, name ∉ given.map Prod.fst) :
    kind.complaints given = [] ↔
      ∀ entry ∈ given, ∃ value, (make [entry]).outcome session = .ok value := by
  rw [RecordKind.complaints_eq_flatMap, List.flatMap_eq_nil_iff]
  constructor
  · intro silent entry among
    rw [(making.decided_single known free among).ok_iff]
    exact silent entry ((RecordKind.mem_inOrder distinct).mpr among)
  · intro makes entry listed
    have among := (RecordKind.mem_inOrder distinct).mp listed
    rw [← (making.decided_single known free among).ok_iff]
    exact makes entry among

/-- The text of all complaints is made of the messages of the options that fail alone. -/
theorem describeAll_complaints (making : Making session kind reserved make)
    (known : kind ≠ .primitive .any) (distinct : given.Distinct)
    (free : ∀ name ∈ reserved, name ∉ given.map Prod.fst) :
    Complaint.describeAll kind.label (kind.complaints given) = String.intercalate "; "
      ((kind.inOrder given).filterMap (fun entry => (make [entry]).complaint? session)) := by
  rw [RecordKind.complaints_eq_flatMap, Complaint.describeAll_flatMap, ← List.filterMap_eq_map,
    List.filterMap_filter]
  refine congrArg _ (List.filterMap_congr (fun entry listed => ?_))
  have among := (RecordKind.mem_inOrder distinct).mp listed
  rw [(making.decided_single known free among).complaint?_eq]
  cases (kind.complaints [entry]).isEmpty <;> rfl

/-- Options are judged one by one.  They are good together iff each is good alone, and the
message about them is made of those about each that is not, in the order of the declaration and
then of the options that are given. -/
theorem judges_options_apart (making : Making session kind reserved make)
    (known : kind ≠ .primitive .any) (distinct : given.Distinct)
    (free : ∀ name ∈ reserved, name ∉ given.map Prod.fst) :
    ((∃ value, (make given).outcome session = .ok value) ↔
      ∀ entry ∈ given, ∃ value, (make [entry]).outcome session = .ok value) ∧
    ∀ error, (make given).outcome session = .error error →
      ∃ cause, error = .definition cause ∧
        cause.message = String.intercalate "; "
          ((kind.inOrder given).filterMap (fun entry => (make [entry]).complaint? session)) := by
  have whole := making.decided known distinct free
  constructor
  · rw [whole.ok_iff]
    exact making.complaints_eq_nil_iff known distinct free
  · intro error failed
    have said : kind.complaints given ≠ [] := by
      intro silent
      obtain ⟨value, made⟩ := whole.makes silent
      exact nomatch made.symm.trans failed
    rw [whole.refuses said] at failed
    cases failed
    exact ⟨_, rfl, making.describeAll_complaints known distinct free⟩

theorem judges_options_apart_of_number :
    let given : Arguments :=
      [("colour", .int 1), ("maximum", .text "ten"), ("nullable", .bool true), ("size", .null)]
    let make : Arguments → Action Value := fun given => do
      return .descriptor (←
        Value.parse (.tuple [.text "number", .map .plain (Entries.ofNames given)]) [] none)
    let parts := ((RecordKind.primitive .number).inOrder given).filterMap
      (fun entry => (make [entry]).complaint? {})
    Making {} (.primitive .number) ["self", "optional", "key"] make ∧ given.Distinct ∧
      (∃ cause, (make given).outcome {} = .error (.definition cause) ∧
        cause.message = String.intercalate "; " parts) ∧
      parts = ["invalid value for number option 'maximum.int': Input should be a valid integer; " ++
          "invalid value for number option 'maximum.float': Input should be a valid number",
        "option 'colour' is not valid for number", "option 'size' is not valid for number"] := by
  intro given make parts
  have makes : (Value.text "number").Makes none {} (.primitive .number) :=
    ⟨rfl, nofun, rfl, .primitive (.number {}), rfl⟩
  have making : Making {} (.primitive .number) ["self", "optional", "key"] make :=
    .pair makes .plain
  have distinct : given.Distinct := by decide
  have free : ∀ name ∈ ["self", "optional", "key"], name ∉ given.map Prod.fst := by decide
  have failed : (make given).outcome {} = .error (.definition (.refused "number"
      [.invalid ["maximum", "int"] .notInteger, .invalid ["maximum", "float"] .notNumber,
        .undeclared "colour", .undeclared "size"])) := rfl
  obtain ⟨cause, same, message⟩ := (judges_options_apart making nofun distinct free).2 _ failed
  exact ⟨making, distinct, ⟨cause, failed.trans (congrArg _ same), message⟩, by decide +kernel⟩

end Making

end RecordSchema
