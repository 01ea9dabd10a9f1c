import RecordSchema.Descriptor.Shorthand
import RecordSchema.Proofs.Session.Agreement
import RecordSchema.Proofs.Session.Conduct
import RecordSchema.Proofs.Value.Parts

namespace RecordSchema

/-! Pairs of sessions that a sort of descriptions cannot tell apart: reading one of them gives
the same node in both. -/

/-- The provider is no class, so it is used as it is. -/
def Value.IsObject (provider : Value) : Prop :=
  ∀ c, provider ≠ .providerClass c

/-- What registering providers leaves: a class is registered by its object. -/
def Registry.HoldsObjects (registry : Registry) : Prop :=
  ∀ entry ∈ registry.entries, entry.2.IsObject

theorem Registry.HoldsObjects.get? {registry : Registry} (objects : registry.HoldsObjects)
    {name : String} {provider : Value} (found : registry.get? name = some provider) :
    provider.IsObject := by
  obtain ⟨entry, first, rfl⟩ := Option.map_eq_some_iff.mp found
  exact objects entry (List.mem_of_find?_eq_some first)

/-! ### One result on both sides -/

/-- Both are one thing, and of the sort. -/
def OneOf (sort : α → Prop) (value other : α) : Prop :=
  value = other ∧ sort value

def Action.Accords (states : Session → Session → Prop) (action : Action α) (sort : α → Prop) :
    Prop :=
  Agree states Eq (OneOf sort) action action

namespace Action.Accords

variable {states : Session → Session → Prop}

protected theorem pure {value : α} {sort : α → Prop} (given : sort value) :
    (pure value : Action α).Accords states sort :=
  Agree.pure ⟨rfl, given⟩

protected theorem throw (error : Error) (sort : α → Prop) :
    (throw error : Action α).Accords states sort :=
  Agree.throw rfl

protected theorem fail (cause : DefinitionError) (sort : α → Prop) :
    (Action.fail cause : Action α).Accords states sort :=
  .throw _ sort

protected theorem fault (fault : Fault) (sort : α → Prop) :
    (Action.fault fault : Action α).Accords states sort :=
  .throw _ sort

protected theorem bind {action : Action α} {next : α → Action β} {middle : α → Prop}
    {sort : β → Prop} (first : action.Accords states middle)
    (second : ∀ value, middle value → (next value).Accords states sort) :
    (action >>= next).Accords states sort := by
  refine Agree.bind first ?_
  rintro value _ ⟨rfl, given⟩
  exact second value given

protected theorem weaken {action : Action α} {sort wider : α → Prop}
    (given : action.Accords states sort) (wide : ∀ value, sort value → wider value) :
    action.Accords states wider := by
  refine Agree.weaken given ?_
  rintro value _ ⟨rfl, kept⟩
  exact ⟨rfl, wide value kept⟩

protected theorem also {action : Action α} {sort further : α → Prop}
    (given : action.Accords states sort) (yields : action.Yields (fun _ => True) further) :
    action.Accords states (fun value => sort value ∧ further value) := by
  intro first second kept
  obtain ⟨outcomes, later⟩ := given first second kept
  refine ⟨?_, later⟩
  rcases outcomes.of_eq with ⟨value, _, result, also, rfl, sorted⟩ | ⟨error, failed, also⟩
  · rw [result, also]
    exact .ok ⟨rfl, sorted, yields.gives first value trivial result⟩
  · rw [failed, also]
    exact .error rfl

protected theorem accept (label : String) : (check : Checked α) →
    (accept label check).Accords states (fun _ => True)
  | .accepted _ => .pure trivial
  | .refused _ => .fail _ _

end Action.Accords

theorem Arguments.ofEntries_accords {states : Session → Session → Prop} (entries : Entries) :
    (Arguments.ofEntries entries).Accords states (fun _ => True) := by
  unfold Arguments.ofEntries
  split
  · exact .pure trivial
  · exact .fault _ _

theorem Shorthand.fieldOptions_accords {states : Session → Session → Prop} (options : Entries) :
    (Shorthand.fieldOptions options).Accords states
      (fun own => own.rest = (options.erase "optional").erase "key") := by
  have optional : (Shorthand.optionalOf options).Accords states (fun _ => True) := by
    unfold Shorthand.optionalOf
    split
    · exact .pure trivial
    · exact .pure trivial
    · exact .throw _ _
  have key : (Shorthand.keyOf options).Accords states (fun _ => True) := by
    unfold Shorthand.keyOf
    split
    · exact .pure trivial
    · exact .pure trivial
    · exact .pure trivial
    · exact .throw _ _
  exact .bind optional (fun _ _ => .bind key (fun _ _ => .pure rfl))

theorem Shorthand.listed_accords {states : Session → Session → Prop} (kind : MapKind)
    (entries : Entries) : (Shorthand.listed kind entries).Accords states (fun _ => True) := by
  unfold Shorthand.listed
  split
  · exact .fault _ _
  · exact .pure trivial

theorem Value.IsObject.conform {states : Session → Session → Prop} {provider : Value}
    (object : provider.IsObject) : provider.conform.Accords states Value.IsObject := by
  unfold Value.conform
  split
  · exact .fail _ _
  · cases provider with
    | providerClass c => exact absurd rfl (object c)
    | _ => exact .pure object

/-- Pairs of sessions, and what is read alike in them: values, as they are built from one another,
and the nodes that they stand for. -/
structure Accord where
  states : Session → Session → Prop
  values : Value → Prop
  nodes : Descriptor → Prop
  environment : ∀ {first second}, states first second → first.environment = second.environment
  registry : ∀ {first second}, states first second → first.registry = second.registry
  objects : ∀ {first second}, states first second → first.registry.HoldsObjects
  items : ∀ {value items}, values value → value.items? = some items → ∀ item ∈ items, values item
  entries : ∀ {value entries}, values value → value.entries? = some entries →
    Entries.Hold values entries
  node : ∀ {node}, values (.descriptor node) → nodes node
  primitive : ∀ options, nodes (.primitive options)
  mapping : ∀ {fields nullable},
    nodes (.mapping fields nullable) ↔ ∀ field ∈ fields, nodes field.descriptor
  array : ∀ {element options}, nodes (.array element options) ↔ nodes element
  ref : ∀ {provider options}, provider.IsObject → Entries.Hold values options →
    nodes (.ref provider options)
  held : ∀ {provider options}, values (.descriptor (.ref provider options)) →
    (values provider ∨ provider.IsObject) ∧ Entries.Hold values options
  conform : ∀ {candidate}, values candidate → candidate.conform.Accords states Value.IsObject
  snapshot : ∀ {options}, Entries.Hold values options →
    (Action.copying options.snapshot).Accords states (Entries.Hold values)

namespace Accord

variable (accord : Accord)

theorem build_accords (kind : RecordKind) (given : Arguments) :
    (OptionRecord.build kind given).Accords accord.states (fun _ => True) := by
  have policy : Action.nullableAny.Accords accord.states (fun _ => True) := by
    intro first second kept
    exact ⟨.ok ⟨congrArg Environment.nullableAny (accord.environment kept), trivial⟩, kept⟩
  exact .bind policy (fun _ _ => .accept _ _)

theorem buildPrimitive_accords (kind : Kind) (given : Arguments) :
    (Descriptor.buildPrimitive kind given).Accords accord.states accord.nodes := by
  refine .bind (accord.build_accords _ given) (fun record _ => ?_)
  cases record.primitive? with
  | none => exact .pure (accord.primitive _)
  | some options => exact .pure (accord.primitive options)

theorem buildMapping_accords {fields : List Field}
    (inside : ∀ field ∈ fields, accord.nodes field.descriptor) (given : Arguments) :
    (Descriptor.buildMapping fields given).Accords accord.states accord.nodes := by
  refine .bind (accord.build_accords _ given) (fun record _ => ?_)
  unfold Descriptor.mappingOf
  split
  · exact .pure (accord.mapping.mpr inside)
  · exact .fail _ _

theorem buildArray_accords {element : Descriptor} (inside : accord.nodes element)
    (given : Arguments) :
    (Descriptor.buildArray element given).Accords accord.states accord.nodes := by
  refine .bind (accord.build_accords _ given) (fun record _ => ?_)
  cases element.isForeign with
  | false => exact .pure (accord.array.mpr inside)
  | true => exact .fail _ _

theorem buildRef_accords {candidate : Value}
    (among : accord.values candidate ∨ candidate.IsObject) {options : Entries}
    (holds : options.Hold accord.values) :
    (Descriptor.buildRef candidate options).Accords accord.states accord.nodes := by
  have conforms : candidate.conform.Accords accord.states Value.IsObject := by
    rcases among with given | object
    · exact accord.conform given
    · exact object.conform
  exact .bind conforms (fun provider object =>
    .bind (accord.snapshot holds) (fun kept inside => .pure (accord.ref object inside)))

theorem attached_accords {node : Descriptor} (given : accord.values (.descriptor node))
    {options : Entries} (holds : options.Hold accord.values) :
    (Shorthand.attached node options).Accords accord.states accord.nodes := by
  have inside := accord.node given
  unfold Shorthand.attached
  split
  · exact .pure inside
  · refine .bind (Arguments.ofEntries_accords options) (fun arguments _ => ?_)
    cases node with
    | primitive own => exact accord.buildPrimitive_accords _ _
    | mapping fields nullable => exact accord.buildMapping_accords (accord.mapping.mp inside) _
    | array element own => exact accord.buildArray_accords (accord.array.mp inside) _
    | ref provider own =>
        obtain ⟨among, kept⟩ := accord.held given
        exact accord.buildRef_accords among (kept.merge holds)
    | foreign value => exact .fault _ _

theorem fieldOptions_accords {options : Entries} (holds : options.Hold accord.values) :
    (Shorthand.fieldOptions options).Accords accord.states
      (fun own => own.rest.Hold accord.values) :=
  (Shorthand.fieldOptions_accords options).weaken (fun own rest => by
    rw [rest]
    exact (holds.erase _).erase _)

theorem named_accords {registry : Registry} (objects : registry.HoldsObjects) (name : String)
    {options : Entries} (holds : options.Hold accord.values) :
    (Shorthand.named registry name options).Accords accord.states accord.nodes := by
  unfold Shorthand.named
  split
  · exact .bind (Arguments.ofEntries_accords options)
      (fun given _ => accord.buildPrimitive_accords _ given)
  · split
    · next provider found => exact accord.buildRef_accords (.inr (objects.get? found)) holds
    · exact .fail _ _

/-- What is said of the field at which a node stands, around the node. -/
theorem around_accords {options : Entries} (holds : options.Hold accord.values)
    {build : Entries → Action Descriptor}
    (builds : ∀ rest, rest.Hold accord.values → (build rest).Accords accord.states accord.nodes) :
    (do
      let own ← Shorthand.fieldOptions options
      return (⟨← build own.rest, own.optional, own.key⟩ : Parsed)).Accords accord.states
        (fun parsed => accord.nodes parsed.descriptor) :=
  .bind (accord.fieldOptions_accords holds) (fun own inside =>
    .bind (builds own.rest inside) (fun _ made => .pure made))

mutual
theorem parse_accords {registry : Registry} (objects : registry.HoldsObjects) :
    (spec : Value) → accord.values spec → (options : Entries) → options.Hold accord.values →
      (Shorthand.parse registry spec options).Accords accord.states
        (fun parsed => accord.nodes parsed.descriptor)
  | .tuple [], _, _, _ => .throw _ _
  | .tuple [_], _, _, _ => .throw _ _
  | .tuple (first :: second :: rest), given, options, holds => by
      have inside := accord.items given rfl
      cases second with
      | map kind layer =>
          cases rest with
          | nil =>
              have layered := accord.entries (inside (.map kind layer) (by simp)) rfl
              exact parse_accords objects first (inside first (by simp)) _ (layered.merge holds)
          | cons third more => exact .throw _ _
      | _ => exact .throw _ _
  | .map kind entries, given, options, holds => by
      have inside := accord.entries given rfl
      rw [Shorthand.parse]
      split
      · exact .bind (Shorthand.listed_accords kind entries) (fun _ _ =>
          parseTyped_accords objects entries inside _ ((inside.erase _).merge holds))
      · refine .bind (accord.fieldOptions_accords holds) (fun own _ => ?_)
        refine .bind (Shorthand.listed_accords kind entries) (fun _ _ => ?_)
        refine .bind (parseFields_accords objects entries inside) (fun fields made => ?_)
        refine .bind (Arguments.ofEntries_accords own.rest) (fun arguments _ => ?_)
        exact .bind (accord.buildMapping_accords made arguments) (fun _ built => .pure built)
  | .list items, given, options, holds =>
      accord.around_accords holds (fun _ _ =>
        parseElement_accords objects items (accord.items given rfl) _)
  | .descriptor node, given, options, holds =>
      accord.around_accords holds (fun _ inside => accord.attached_accords given inside)
  | .text name, given, options, holds =>
      accord.around_accords holds (fun _ inside => accord.named_accords objects name inside)
  | .null, _, options, holds | .bool _, _, options, holds | .number _, _, options, holds
  | .bytes false _, _, options, holds =>
      .bind (accord.fieldOptions_accords holds) (fun _ _ => .throw _ _)
  | .bytes true _, given, options, holds | .set _ _, given, options, holds
  | .date _ _ _, given, options, holds | .moment _, given, options, holds
  | .providerClass _, given, options, holds | .provider _ _, given, options, holds
  | .field _, given, options, holds | .options _, given, options, holds
  | .other _, given, options, holds =>
      accord.around_accords holds (fun _ inside => accord.buildRef_accords (.inl given) inside)
termination_by structural spec => spec

theorem parseTyped_accords {registry : Registry} (objects : registry.HoldsObjects) :
    (entries : List (Value × Value)) → Entries.Hold accord.values entries →
      (options : Entries) → options.Hold accord.values →
        (Shorthand.parseTyped registry entries options).Accords accord.states
          (fun parsed => accord.nodes parsed.descriptor)
  | [], _, _, _ => .fault _ _
  | (key, spec) :: rest, inside, options, holds => by
      have both := List.forall_mem_cons.mp inside
      have tail := parseTyped_accords objects rest both.2 options holds
      cases key with
      | text name =>
          rw [Shorthand.parseTyped]
          split
          · exact parse_accords objects spec both.1 options holds
          · exact tail
      | _ => exact tail
termination_by structural entries => entries

theorem parseElement_accords {registry : Registry} (objects : registry.HoldsObjects) :
    (items : List Value) → (∀ item ∈ items, accord.values item) → (options : Entries) →
      (Shorthand.parseElement registry items options).Accords accord.states accord.nodes
  | [], _, _ => .fail _ _
  | [element], inside, options => by
      have given := List.forall_mem_singleton.mp inside
      refine .bind (parse_accords objects element given [] .nil) (fun parsed made => ?_)
      exact .bind (Arguments.ofEntries_accords options)
        (fun arguments _ => accord.buildArray_accords made arguments)
  | _ :: _ :: _, _, _ => .fail _ _
termination_by structural items => items

theorem parseFields_accords {registry : Registry} (objects : registry.HoldsObjects) :
    (entries : List (Value × Value)) → Entries.Hold accord.values entries →
      (Shorthand.parseFields registry entries).Accords accord.states
        (fun fields => ∀ field ∈ fields, accord.nodes field.descriptor)
  | [], _ => .pure nofun
  | (key, spec) :: rest, inside => by
      have both := List.forall_mem_cons.mp inside
      have tail := parseFields_accords objects rest both.2
      cases key with
      | text name =>
          refine .bind (parse_accords objects spec both.1 [] .nil) (fun parsed made => ?_)
          exact .bind tail (fun fields others => .pure (List.forall_mem_cons.mpr ⟨made, others⟩))
      | _ => exact .throw _ _
termination_by structural entries => entries
end

theorem parse_alike {spec : Value} (given : accord.values spec) :
    (spec.parse [] none).Accords accord.states accord.nodes := by
  intro first second kept
  have reads := accord.parse_accords (accord.objects kept) spec given [] .nil
  have same : (spec.parse [] none).run.run second =
      (do return (← Shorthand.parse first.registry spec []).descriptor : Action Descriptor).run.run
        second := by
    rw [accord.registry kept]
    rfl
  rw [same]
  exact Agree.bind reads
    (fun _ _ parsed => .pure ⟨congrArg Parsed.descriptor parsed.1, parsed.2⟩) first second kept

end Accord

end RecordSchema
