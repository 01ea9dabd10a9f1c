import RecordSchema.Proofs.Descriptor.Accord
import RecordSchema.Proofs.Descriptor.Refusal
import RecordSchema.Proofs.Provider.Registry
import RecordSchema.Template

namespace RecordSchema

/-! Which registry reading a description consults.  One that is given stands in for that of
the session, and a name is found by it alone, unless it is empty. -/

/-- The sessions differ at most in their registries. -/
def Session.Beside (first second : Session) : Prop :=
  ∃ registry, second = { first with registry := registry }

/-- A name of which an error says that it is unknown, with the names said to be known, is a
lacking one. -/
def Error.Blames (lacks : String → List String → Prop) (error : Error) : Prop :=
  ∀ name known, error = .definition (.unknownName name known) → lacks name known

/-- The registry of the session makes no difference, and only lacking names are reported as
unknown. -/
def Action.Consults (lacks : String → List String → Prop) (action : Action α) : Prop :=
  Agree Session.Beside (OneOf (Error.Blames lacks)) Eq action action

namespace Action.Consults

variable {lacks : String → List String → Prop}

protected theorem pure (value : α) : (pure value : Action α).Consults lacks :=
  Agree.pure rfl

protected theorem throw {error : Error} (blames : error.Blames lacks) :
    (throw error : Action α).Consults lacks :=
  Agree.throw ⟨rfl, blames⟩

protected theorem unknown {name : String} {known : List String} (given : lacks name known) :
    (Action.fail (.unknownName name known) : Action α).Consults lacks := by
  refine .throw ?_
  rintro _ _ ⟨⟩
  exact given

protected theorem fail {cause : DefinitionError}
    (other : ∀ name known, cause ≠ .unknownName name known) :
    (Action.fail cause : Action α).Consults lacks := by
  refine .throw (fun name known same => ?_)
  exact absurd (Error.definition.inj same) (other name known)

protected theorem fault (fault : Fault) : (Action.fault fault : Action α).Consults lacks :=
  .throw (fun _ _ same => nomatch same)

protected theorem failShowing (shown : Value) {cause : DefinitionError}
    (other : ∀ name known, cause ≠ .unknownName name known) :
    (Action.failShowing shown cause : Action α).Consults lacks := by
  unfold Action.failShowing Error.showing
  split
  · exact .fail other
  · exact .fault .value

protected theorem bind {action : Action α} {next : α → Action β} (first : action.Consults lacks)
    (second : ∀ value, (next value).Consults lacks) : (action >>= next).Consults lacks := by
  refine Agree.bind first ?_
  rintro value _ rfl
  exact second value

protected theorem weaken {wider : String → List String → Prop} {action : Action α}
    (consults : action.Consults lacks)
    (wide : ∀ name known, lacks name known → wider name known) : action.Consults wider := by
  intro first second beside
  obtain ⟨outcomes, later⟩ := consults first second beside
  refine ⟨outcomes.weaken_error (fun error other related => ?_), later⟩
  exact ⟨related.1, fun name known same => wide name known (related.2 name known same)⟩

protected theorem nullableAny : nullableAny.Consults lacks := by
  rintro first _ ⟨registry, rfl⟩
  exact ⟨.ok rfl, registry, rfl⟩

protected theorem accept (label : String) : (check : Checked α) →
    (accept label check).Consults lacks
  | .accepted value => .pure value
  | .refused _ => .fail nofun

protected theorem copying (step : Copying α) : (copying step).Consults lacks := by
  rintro first _ ⟨registry, rfl⟩
  refine ⟨?_, registry, ?_⟩
  · change Outcomes _ _ ((copying step).outcome first) ((copying step).outcome _)
    rw [outcome_copying, outcome_copying]
    cases (step.run.run first.instances).1 with
    | ok value => exact .ok rfl
    | error fault => exact .error ⟨rfl, fun _ _ same => nomatch same⟩
  · change (copying step).after _ = { (copying step).after first with registry := registry }
    rw [after_copying, after_copying]

theorem outcomes {action : Action α} (consults : action.Consults lacks) (session : Session)
    (registry : Registry) :
    Outcomes (OneOf (Error.Blames lacks)) Eq (action.outcome session)
      (action.outcome { session with registry := registry }) :=
  (consults session _ ⟨registry, rfl⟩).1

theorem outcome_eq {action : Action α} (consults : action.Consults lacks) (session : Session)
    (registry : Registry) :
    action.outcome { session with registry := registry } = action.outcome session := by
  have related := consults.outcomes session registry
  generalize action.outcome session = first at related ⊢
  generalize action.outcome { session with registry := registry } = second at related ⊢
  cases related with
  | ok same => exact congrArg _ same.symm
  | error blamed => exact congrArg _ blamed.1.symm

theorem blames {action : Action α} (consults : action.Consults lacks) {session : Session}
    {name : String} {known : List String}
    (failed : action.outcome session = .error (.definition (.unknownName name known))) :
    lacks name known := by
  have related := consults.outcomes session session.registry
  rw [failed] at related
  cases related with
  | error blamed => exact blamed.2 name known rfl

end Action.Consults

/-! ### Reading -/

section Parts

variable {lacks : String → List String → Prop}

theorem Arguments.ofEntries_consults (entries : Entries) :
    (Arguments.ofEntries entries).Consults lacks := by
  unfold Arguments.ofEntries
  split
  · exact .pure _
  · exact .fault _

theorem ProviderClass.complaint_consults (c : ProviderClass) : (refusal : Refusal) →
    (throw (c.complaint refusal) : Action α).Consults lacks
  | .type _ => .fail nofun
  | .fault fault _ => .fault fault

theorem Value.conform_consults (candidate : Value) : candidate.conform.Consults lacks := by
  unfold Value.conform
  split
  · exact .fail nofun
  · split
    · split
      · exact ProviderClass.complaint_consults _ _
      · rintro first _ ⟨registry, rfl⟩
        exact ⟨.ok rfl, registry, rfl⟩
    · exact .pure _

theorem OptionRecord.build_consults (kind : RecordKind) (given : Arguments) :
    (OptionRecord.build kind given).Consults lacks :=
  .bind .nullableAny (fun _ => .accept _ _)

namespace Descriptor

theorem buildPrimitive_consults (kind : Kind) (given : Arguments) :
    (buildPrimitive kind given).Consults lacks := by
  refine .bind (OptionRecord.build_consults _ given) (fun record => ?_)
  cases record.primitive? with
  | none => exact .pure _
  | some options => exact .pure _

theorem buildMapping_consults (fields : List Field) (given : Arguments) :
    (buildMapping fields given).Consults lacks := by
  refine .bind (OptionRecord.build_consults _ given) (fun record => ?_)
  unfold mappingOf
  split
  · exact .pure _
  · exact .fail nofun

theorem buildArray_consults (element : Descriptor) (given : Arguments) :
    (buildArray element given).Consults lacks := by
  refine .bind (OptionRecord.build_consults _ given) (fun record => ?_)
  cases element.isForeign with
  | false => exact .pure _
  | true => exact .fail nofun

theorem buildRef_consults (candidate : Value) (options : Entries) :
    (buildRef candidate options).Consults lacks :=
  .bind (Value.conform_consults candidate)
    (fun _ => .bind (.copying _) (fun _ => .pure _))

end Descriptor

namespace Shorthand

theorem fieldOptions_consults (options : Entries) : (fieldOptions options).Consults lacks := by
  have optional : (optionalOf options).Consults lacks := by
    unfold optionalOf
    split
    · exact .pure _
    · exact .pure _
    · exact .failShowing _ nofun
  have key : (keyOf options).Consults lacks := by
    unfold keyOf
    split
    · exact .pure _
    · exact .pure _
    · exact .pure _
    · exact .failShowing _ nofun
  exact .bind optional (fun _ => .bind key (fun _ => .pure _))

theorem listed_consults (kind : MapKind) (entries : Entries) :
    (listed kind entries).Consults lacks := by
  unfold listed
  split
  · exact .fault .type
  · exact .pure ()

theorem attached_consults (node : Descriptor) (options : Entries) :
    (attached node options).Consults lacks := by
  unfold attached
  split
  · exact .pure _
  · refine .bind (Arguments.ofEntries_consults options) (fun given => ?_)
    cases node with
    | primitive own => exact Descriptor.buildPrimitive_consults _ _
    | mapping fields nullable => exact Descriptor.buildMapping_consults _ _
    | array element own => exact Descriptor.buildArray_consults _ _
    | ref provider own => exact Descriptor.buildRef_consults _ _
    | foreign value => exact .fault _

end Shorthand

end Parts

namespace Shorthand

/-- The name stands in the description, and neither a kind nor the registry goes by it. -/
def Lacks (registry : Registry) (spec : Value) (options : Entries) (name : String)
    (known : List String) : Prop :=
  (∃ given, Bears spec options (.text name) given) ∧ Kind.ofName? name = none ∧
    registry.get? name = none ∧ known = registry.names

variable {registry : Registry}

theorem Lacks.mono {spec wider : Value} {options others : Entries} {name : String}
    {known : List String} (lacks : Lacks registry spec options name known)
    (bears : ∀ given, Bears spec options (.text name) given →
      Bears wider others (.text name) given) :
    Lacks registry wider others name known :=
  ⟨lacks.1.imp bears, lacks.2⟩

theorem named_consults (registry : Registry) (name : String) (options : Entries) :
    (named registry name options).Consults (fun lacking known =>
      lacking = name ∧ Kind.ofName? name = none ∧ registry.get? name = none ∧
        known = registry.names) := by
  unfold named
  split
  · exact .bind (Arguments.ofEntries_consults _) (fun _ => Descriptor.buildPrimitive_consults _ _)
  · next other =>
      split
      · exact Descriptor.buildRef_consults _ _
      · next absent => exact .unknown ⟨rfl, other, absent, rfl⟩

mutual
theorem parse_consults (registry : Registry) : (spec : Value) → (options : Entries) →
    (parse registry spec options).Consults (Lacks registry spec options)
  | .tuple [], _ => .failShowing _ nofun
  | .tuple [_], _ => .failShowing _ nofun
  | .tuple (first :: second :: rest), options => by
      cases second with
      | map kind layer =>
          cases rest with
          | nil =>
              refine (parse_consults registry first (Entries.merge layer options)).weaken ?_
              exact fun _ _ lacks => lacks.mono (fun _ bears => .pair bears)
          | cons third more => exact .failShowing _ nofun
      | _ => exact .failShowing _ nofun
  | .map kind entries, options => by
      rw [parse]
      split
      · next layered =>
          refine .bind (listed_consults kind entries) (fun _ => ?_)
          refine (parseTyped_consults registry entries layered _).weaken ?_
          rintro name known ⟨inner, described, lacks⟩
          exact lacks.mono (fun _ bears => .typed described bears)
      · next plain =>
          refine .bind (fieldOptions_consults options) (fun own => ?_)
          refine .bind (listed_consults kind entries) (fun _ => ?_)
          refine .bind ((parseFields_consults registry entries).weaken ?_) (fun fields => ?_)
          · rintro name known ⟨place, part, among, lacks⟩
            exact lacks.mono (fun _ bears => .field (Bool.eq_false_iff.mpr plain) among bears)
          · exact .bind (Arguments.ofEntries_consults _)
              (fun _ => .bind (Descriptor.buildMapping_consults _ _) (fun _ => .pure _))
  | .list items, options => by
      refine .bind (fieldOptions_consults options) (fun own => ?_)
      refine .bind ((parseElement_consults registry items own.rest).weaken ?_) (fun _ => .pure _)
      rintro name known ⟨part, rfl, lacks⟩
      exact lacks.mono (fun _ bears => .element bears)
  | .descriptor node, options =>
      .bind (fieldOptions_consults options)
        (fun _ => .bind (attached_consults node _) (fun _ => .pure _))
  | .text name, options => by
      refine .bind (fieldOptions_consults options) (fun own => ?_)
      refine .bind ((named_consults registry name own.rest).weaken ?_) (fun _ => .pure _)
      rintro _ known ⟨rfl, lacks⟩
      exact ⟨⟨_, .core options rfl⟩, lacks⟩
  | .null, options | .bool _, options | .number _, options | .bytes false _, options =>
      .bind (fieldOptions_consults options) (fun _ => .failShowing _ nofun)
  | .bytes true _, options | .set _ _, options | .date _ _ _, options | .moment _, options
  | .providerClass _, options | .provider _ _, options | .field _, options
  | .options _, options | .other _, options =>
      .bind (fieldOptions_consults options)
        (fun _ => .bind (Descriptor.buildRef_consults _ _) (fun _ => .pure _))
termination_by structural spec => spec

theorem parseTyped_consults (registry : Registry) : (entries : List (Value × Value)) →
    Entries.contains entries typeKey = true → (options : Entries) →
      (parseTyped registry entries options).Consults (fun name known =>
        ∃ inner, Entries.get? entries typeKey = some inner ∧
          Lacks registry inner options name known)
  | (key, spec) :: rest, layered, options => by
      by_cases described : key = .text typeKey
      · subst described
        have found := Entries.get?_cons_self typeKey spec rest
        rw [parseTyped, if_pos rfl]
        exact (parse_consults registry spec options).weaken
          (fun _ _ lacks => ⟨spec, found, lacks⟩)
      · have found := Entries.get?_cons_of_ne described spec rest
        rw [Entries.contains, found] at layered
        rw [parseTyped_cons_of_ne registry described, found]
        exact parseTyped_consults registry rest layered options
termination_by structural entries => entries

theorem parseElement_consults (registry : Registry) : (items : List Value) →
    (options : Entries) → (parseElement registry items options).Consults (fun name known =>
      ∃ part, items = [part] ∧ Lacks registry part [] name known)
  | [], _ => .fail nofun
  | [element], options => by
      refine .bind ((parse_consults registry element []).weaken ?_) (fun parsed => ?_)
      · exact fun _ _ lacks => ⟨element, rfl, lacks⟩
      · exact .bind (Arguments.ofEntries_consults _)
          (fun _ => Descriptor.buildArray_consults _ _)
  | _ :: _ :: _, _ => .fail nofun
termination_by structural items => items

theorem parseFields_consults (registry : Registry) : (entries : List (Value × Value)) →
    (parseFields registry entries).Consults (fun name known =>
      ∃ place part, (.text place, part) ∈ entries ∧ Lacks registry part [] name known)
  | [] => .pure _
  | (key, spec) :: rest => by
      have tail := parseFields_consults registry rest
      cases key with
      | text place =>
          refine .bind ((parse_consults registry spec []).weaken ?_) (fun parsed => ?_)
          · exact fun _ _ lacks => ⟨place, spec, .head _, lacks⟩
          · refine .bind (tail.weaken ?_) (fun _ => .pure _)
            exact fun _ _ ⟨place, part, among, lacks⟩ => ⟨place, part, .tail _ among, lacks⟩
      | _ => exact .failShowing _ nofun
termination_by structural entries => entries
end

/-- A description is not read where a name is lacking in it. -/
theorem refuses_lacking {registry : Registry} {spec : Value} {options : Entries} {name : String}
    {known : List String} (lacks : Lacks registry spec options name known) :
    (parse registry spec options).Refuses := by
  obtain ⟨⟨given, bears⟩, other, absent, -⟩ := lacks
  refine bears.refuses registry (fun own _ _ => .after (fun parts => ?_))
  refine Action.Refuses.bind ?_ _
  unfold named
  rw [other, absent]
  exact .fail _ _

end Shorthand

namespace Registry

variable {names : Registry}

theorem orElse_of_empty (empty : names.isEmpty = true) (own : Registry) :
    orElse (some names) own = orElse none own :=
  if_pos empty

theorem orElse_of_nonempty (nonempty : names.isEmpty = false) (own : Registry) :
    orElse (some names) own = names :=
  if_neg (Bool.eq_false_iff.mp nonempty)

/-- Reading with the registry does not depend on that of the session. -/
def Overrides (names : Registry) : Prop :=
  ∀ (session : Session) (own : Registry),
    (∀ (spec : Value) (options : Entries),
      (spec.parse options (some names)).outcome { session with registry := own } =
        (spec.parse options (some names)).outcome session) ∧
    ∀ text, (Template.load text (some names)).outcome { session with registry := own } =
      (Template.load text (some names)).outcome session

/-- A name is found in a description if the registry contains it, and only then: no node is
made of one with a name that the registry lacks, and only such a name is said to be unknown. -/
def Decides (names : Registry) : Prop :=
  ∀ (spec : Value) (options : Entries) (session : Session),
    let outcome := (spec.parse options (some names)).outcome session
    (∀ name given, Shorthand.Bears spec options (.text name) given → Kind.ofName? name = none →
      names.contains name = false → ∀ node, outcome ≠ .ok node) ∧
    ∀ name known, outcome = .error (.definition (.unknownName name known)) →
      (∃ given, Shorthand.Bears spec options (.text name) given) ∧ Kind.ofName? name = none ∧
        names.contains name = false ∧ known = names.names

theorem parse_of_empty (empty : names.isEmpty = true) (spec : Value) (options : Entries) :
    spec.parse options (some names) = spec.parse options none := by
  unfold Value.parse
  simp only [orElse_of_empty empty]

theorem load_of_empty (empty : names.isEmpty = true) (text : String) :
    Template.load text (some names) = Template.load text none := by
  unfold Template.load
  simp only [parse_of_empty empty]

theorem parse_of_nonempty (nonempty : names.isEmpty = false) (spec : Value)
    (options : Entries) :
    spec.parse options (some names) =
      (do return (← Shorthand.parse names spec options).descriptor) := by
  unfold Value.parse
  simp only [orElse_of_nonempty nonempty]
  rfl

theorem parse_consults (nonempty : names.isEmpty = false) (spec : Value) (options : Entries) :
    (spec.parse options (some names)).Consults (Shorthand.Lacks names spec options) := by
  rw [parse_of_nonempty nonempty]
  exact .bind (Shorthand.parse_consults names spec options) (fun _ => .pure _)

theorem overrides_of_nonempty (nonempty : names.isEmpty = false) : names.Overrides := by
  intro session own
  refine ⟨fun spec options => (parse_consults nonempty spec options).outcome_eq session own, ?_⟩
  intro text
  have read : (Template.specification text).Consults (fun _ _ => True) := by
    unfold Template.specification
    split
    · exact .fail nofun
    · exact .pure _
    · exact .fail nofun
    · exact .fail nofun
    · exact .fault _
  have loads : (Template.load text (some names)).Consults (fun _ _ => True) :=
    .bind read (fun spec => (parse_consults nonempty spec []).weaken (fun _ _ _ => trivial))
  exact loads.outcome_eq session own

theorem decides_of_nonempty (nonempty : names.isEmpty = false) : names.Decides := by
  intro spec options session
  constructor
  · intro name given bears other lacking node made
    rw [contains_eq_isSome, Option.isSome_eq_false_iff, Option.isNone_iff_eq_none] at lacking
    have refuses : (spec.parse options (some names)).Refuses := by
      rw [parse_of_nonempty nonempty]
      exact (Shorthand.refuses_lacking ⟨⟨given, bears⟩, other, lacking, rfl⟩).bind _
    exact refuses.gives session node trivial made
  · intro name known failed
    obtain ⟨stands, other, lacking, told⟩ := (parse_consults nonempty spec options).blames failed
    refine ⟨stands, other, ?_, told⟩
    rw [contains_eq_isSome, lacking]
    rfl

theorem not_overrides_of_empty (empty : names.isEmpty = true) : ¬ names.Overrides := by
  intro overrides
  let money : ProviderClass := { key := "Money", typeName := "Money" }
  have same := (overrides {} ⟨[("money", .provider money 0)]⟩).1 (.text "money") []
  rw [parse_of_empty empty] at same
  exact nomatch same

/-- The registry that is given is the only one consulted if it is not empty.  An empty one is
not consulted at all: reading takes the registry of the session. -/
theorem overrides_iff_nonempty (names : Registry) :
    (names.Overrides ↔ names.isEmpty = false) ∧
      (names.isEmpty = false → names.Decides) ∧
        (names.isEmpty = true →
          (∀ (spec : Value) options, spec.parse options (some names) = spec.parse options none) ∧
            ∀ text, Template.load text (some names) = Template.load text none) := by
  refine ⟨⟨fun overrides => ?_, overrides_of_nonempty⟩, decides_of_nonempty, fun empty => ?_⟩
  · rw [Bool.eq_false_iff]
    exact fun empty => not_overrides_of_empty empty overrides
  · exact ⟨parse_of_empty empty, load_of_empty empty⟩

/-- With an empty registry a name is looked up in the session. -/
theorem empty_not_consulted :
    let money : ProviderClass := { key := "Money", typeName := "Money" }
    let read : Action Descriptor := (Value.text "money").parse [] (some {})
    read.outcome {} = .error (.definition (.unknownName "money" [])) ∧
      read.outcome { registry := ⟨[("money", .provider money 0)]⟩ } =
          .ok (.ref (.provider money 0) []) ∧
        ¬ ({} : Registry).Overrides := by
  intro money read
  have none : ({} : Registry).names = [] := List.mergeSort_nil
  have unknown : read.outcome {} =
      .error (.definition (.unknownName "money" ({} : Registry).names)) := rfl
  rw [none] at unknown
  exact ⟨unknown, rfl, not_overrides_of_empty rfl⟩

end Registry

end RecordSchema
