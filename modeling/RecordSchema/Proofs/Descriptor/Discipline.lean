import RecordSchema.Descriptor.Blueprint
import RecordSchema.Proofs.Session.Discipline
import RecordSchema.Provider.Registration
import RecordSchema.Template

namespace RecordSchema

/-! Reading and building nodes keeps to every discipline, and so does registering. -/

namespace Reading

variable (reading : Reading)

theorem ofEntries (entries : Entries) : reading.holds (Arguments.ofEntries entries) := by
  unfold Arguments.ofEntries
  cases Arguments.ofEntries? entries with
  | none => exact reading.fault .type
  | some given => exact reading.value given

theorem complaint (c : ProviderClass) (refusal : Refusal) :
    reading.holds (throw (c.complaint refusal) : Action α) := by
  cases refusal with
  | type complaint => exact reading.fail _
  | fault fault => exact reading.fault fault

theorem conform (candidate : Value) : reading.holds candidate.conform := by
  unfold Value.conform
  split
  · exact reading.fail _
  · split
    · split
      · exact reading.complaint _ _
      · exact reading.share _
    · exact reading.value _

theorem optionRecord (kind : RecordKind) (given : Arguments) :
    reading.holds (OptionRecord.build kind given) :=
  reading.bind reading.policy (fun _ => reading.accept _ _)

theorem buildPrimitive (kind : Kind) (given : Arguments) :
    reading.holds (Descriptor.buildPrimitive kind given) := by
  refine reading.bind (reading.optionRecord _ given) (fun record => ?_)
  cases record.primitive? with
  | none => exact reading.value _
  | some options => exact reading.value _

theorem mappingOf (fields : List Field) (nullable : Bool) :
    reading.holds (Descriptor.mappingOf fields nullable) := by
  unfold Descriptor.mappingOf
  split
  · exact reading.value _
  · exact reading.fail _

theorem buildMapping (fields : List Field) (given : Arguments) :
    reading.holds (Descriptor.buildMapping fields given) :=
  reading.bind (reading.optionRecord _ given) (fun _ => reading.mappingOf fields _)

theorem buildArray (element : Descriptor) (given : Arguments) :
    reading.holds (Descriptor.buildArray element given) := by
  refine reading.bind (reading.optionRecord _ given) (fun record => ?_)
  cases element.isForeign with
  | false => exact reading.value _
  | true => exact reading.fail _

theorem buildRef (candidate : Value) (options : Entries) :
    reading.holds (Descriptor.buildRef candidate options) :=
  reading.bind (reading.conform candidate) (fun _ =>
    reading.bind (reading.snapshot options .plain) (fun _ => reading.value _))

theorem withOptions (node : Descriptor) (options : Entries) :
    reading.holds (node.withOptions options) := by
  refine reading.bind (reading.ofEntries options) (fun given => ?_)
  cases node with
  | primitive own => exact reading.buildPrimitive _ _
  | mapping fields nullable => exact reading.buildMapping _ _
  | array element own => exact reading.buildArray _ _
  | ref provider own => exact reading.buildRef _ _
  | foreign value => exact reading.fault _

/-! ### Shorthand -/

theorem fieldOptions (options : Entries) :
    reading.holds (Shorthand.fieldOptions options) := by
  have optional : reading.holds (Shorthand.optionalOf options) := by
    unfold Shorthand.optionalOf
    split
    · exact reading.value _
    · exact reading.value _
    · exact reading.failShowing _ _
  have key : reading.holds (Shorthand.keyOf options) := by
    unfold Shorthand.keyOf
    split
    · exact reading.value _
    · exact reading.value _
    · exact reading.value _
    · exact reading.failShowing _ _
  exact reading.bind optional (fun _ =>
    reading.bind key (fun _ => reading.value _))

theorem named (registry : Registry) (name : String) (options : Entries) :
    reading.holds (Shorthand.named registry name options) := by
  unfold Shorthand.named
  split
  · exact reading.bind (reading.ofEntries options)
      (fun _ => reading.buildPrimitive _ _)
  · split
    · exact reading.buildRef _ _
    · exact reading.fail _

theorem listed (kind : MapKind) (entries : Entries) :
    reading.holds (Shorthand.listed kind entries) := by
  unfold Shorthand.listed
  split
  · exact reading.fault .type
  · exact reading.value _

theorem attached (node : Descriptor) (options : Entries) :
    reading.holds (Shorthand.attached node options) := by
  unfold Shorthand.attached
  split
  · exact reading.value _
  · exact reading.withOptions node options

/-- What is said of the field at which a node stands, around the node. -/
theorem around {options : Entries} {build : Entries → Action Descriptor}
    (builds : ∀ rest, reading.holds (build rest)) :
    reading.holds (do
      let own ← Shorthand.fieldOptions options
      return (⟨← build own.rest, own.optional, own.key⟩ : Parsed)) :=
  reading.bind (reading.fieldOptions options) (fun own =>
    reading.bind (builds own.rest) (fun _ => reading.value _))

mutual
theorem shorthand (registry : Registry) : (spec : Value) → (options : Entries) →
    reading.holds (Shorthand.parse registry spec options)
  | .tuple [], _ => reading.failShowing _ _
  | .tuple [_], _ => reading.failShowing _ _
  | .tuple (first :: second :: rest), options => by
      cases second with
      | map kind layer =>
          cases rest with
          | nil => exact shorthand registry first _
          | cons third more => exact reading.failShowing _ _
      | _ => exact reading.failShowing _ _
  | .map kind entries, options => by
      rw [Shorthand.parse]
      split
      · exact reading.bind (reading.listed kind entries) (fun _ =>
          shorthandTyped registry entries _)
      · refine reading.bind (reading.fieldOptions options) (fun own => ?_)
        refine reading.bind (reading.listed kind entries) (fun _ => ?_)
        refine reading.bind (shorthandFields registry entries) (fun fields => ?_)
        exact reading.bind (reading.ofEntries own.rest) (fun given =>
          reading.bind (reading.buildMapping fields given) (fun _ => reading.value _))
  | .list items, _ => reading.around (shorthandElement registry items)
  | .descriptor node, _ => reading.around (reading.attached node)
  | .text name, _ => reading.around (reading.named registry name)
  | .null, options | .bool _, options | .number _, options | .bytes false _, options =>
      reading.bind (reading.fieldOptions options) (fun _ => reading.failShowing _ _)
  | .bytes true _, _ | .set _ _, _ | .date _ _ _, _ | .moment _, _ | .providerClass _, _
  | .provider _ _, _ | .field _, _ | .options _, _ | .other _, _ =>
      reading.around (reading.buildRef _)
termination_by structural spec => spec

theorem shorthandTyped (registry : Registry) : (entries : List (Value × Value)) →
    (options : Entries) → reading.holds (Shorthand.parseTyped registry entries options)
  | [], _ => reading.fault .value
  | (key, spec) :: rest, options => by
      have tail := shorthandTyped registry rest options
      cases key with
      | text name =>
          rw [Shorthand.parseTyped]
          split
          · exact shorthand registry spec options
          · exact tail
      | _ => exact tail
termination_by structural entries => entries

theorem shorthandElement (registry : Registry) : (items : List Value) →
    (options : Entries) → reading.holds (Shorthand.parseElement registry items options)
  | [], _ => reading.fail _
  | [element], options =>
      reading.bind (shorthand registry element []) (fun _ =>
        reading.bind (reading.ofEntries options) (fun given =>
          reading.buildArray _ given))
  | _ :: _ :: _, _ => reading.fail _
termination_by structural items => items

theorem shorthandFields (registry : Registry) : (entries : List (Value × Value)) →
    reading.holds (Shorthand.parseFields registry entries)
  | [] => reading.value _
  | (key, spec) :: rest => by
      have tail := shorthandFields registry rest
      cases key with
      | text name =>
          exact reading.bind (shorthand registry spec []) (fun _ =>
            reading.bind tail (fun _ => reading.value _))
      | _ => exact reading.failShowing _ _
termination_by structural entries => entries
end

end Reading

namespace Discipline

variable (discipline : Discipline)

theorem parse (spec : Value) (options : Entries) (registry : Option Registry) :
    discipline.holds (spec.parse options registry) := by
  have reads (names : Registry) : discipline.holds (do
      return (← Shorthand.parse (Registry.orElse registry names) spec options).descriptor) :=
    discipline.bind (discipline.reading.shorthand _ spec options) (fun _ => discipline.value _)
  exact discipline.names reads

theorem toDescriptor (spec : Value) : discipline.holds spec.toDescriptor := by
  cases spec with
  | descriptor node => exact discipline.value node
  | _ => exact discipline.parse _ [] none

theorem load (text : String) (registry : Option Registry) :
    discipline.holds (Template.load text registry) := by
  refine discipline.bind ?_ (fun spec => discipline.parse spec [] registry)
  unfold Template.specification
  split
  · exact discipline.fail _
  · exact discipline.value _
  · exact discipline.fail _
  · exact discipline.fail _
  · exact discipline.fault _

/-! ### Named arguments -/

theorem primitiveOptions (kind : Kind) (given : Arguments) :
    discipline.holds (Blueprint.primitiveOptions kind given) := by
  unfold Blueprint.primitiveOptions
  split
  · exact discipline.value _
  · exact discipline.value _
  · exact discipline.bind (discipline.reading.ofEntries _) (fun _ =>
      discipline.bind (discipline.reading.optionRecord _ _) (fun _ => discipline.value _))
  · split <;> exact discipline.value _
  · exact discipline.value _

theorem strayOptions (given : Arguments) : discipline.holds (Blueprint.strayOptions given) := by
  unfold Blueprint.strayOptions
  split
  · exact discipline.value _
  · exact discipline.value _
  · exact discipline.bind (discipline.reading.ofEntries _) (fun _ =>
      discipline.bind (discipline.reading.optionRecord _ _) (fun _ => discipline.value _))
  · exact discipline.value _
  · exact discipline.value _

theorem buildKind (given : Arguments) : discipline.holds (Blueprint.buildPrimitive given) := by
  unfold Blueprint.buildPrimitive
  split
  · exact discipline.bind (discipline.strayOptions given) (fun _ => discipline.fail _)
  · split
    · exact discipline.fault _
    · split
      · exact discipline.bind (discipline.primitiveOptions _ given) (fun _ =>
          discipline.bind (discipline.accept _ _) (fun _ => discipline.value _))
      · exact discipline.bind (discipline.strayOptions given) (fun _ => discipline.fail _)

theorem recordOption (kind : RecordKind) (given : Arguments) :
    discipline.holds (Blueprint.recordOption kind given) := by
  unfold Blueprint.recordOption
  split
  · exact discipline.bind (discipline.reading.optionRecord _ _) (fun _ => discipline.value _)
  · exact discipline.bind (discipline.reading.optionRecord _ _) (fun _ => discipline.value _)
  · exact discipline.bind (discipline.reading.ofEntries _) (fun _ =>
      discipline.bind (discipline.reading.optionRecord _ _) (fun _ => discipline.value _))
  · split <;> exact discipline.value _
  · exact discipline.value _

theorem eachItem {step : Value → Action (Checked α)} (steps : ∀ item, discipline.holds (step item))
    (position : Nat) (items : List Value) :
    discipline.holds (Blueprint.eachItem step position items) := by
  induction items generalizing position with
  | nil => exact discipline.value _
  | cons item rest induction =>
      exact discipline.bind (steps item) (fun _ =>
        discipline.bind (induction _) (fun _ => discipline.value _))

theorem buildReference (given : Arguments) :
    discipline.holds (Blueprint.buildReference given) := by
  have finish (provider : Checked Value) (options : Checked Entries) :
      discipline.holds (Action.accept "provider reference"
        (.both (.map Descriptor.ref provider) options)) :=
    discipline.accept _ _
  unfold Blueprint.buildReference
  dsimp only
  split
  on_goal 1 => refine discipline.bind (discipline.value _) (fun provider => ?_)
  on_goal 2 =>
    refine discipline.bind (discipline.reading.conform _) (fun _ => ?_)
    refine discipline.bind (discipline.value _) (fun provider => ?_)
  -- Whatever was given as the provider, the options are read next.
  all_goals
    split
    · exact finish _ _
    · exact finish _ _
    · exact discipline.bind (discipline.copying (Entries.snapshot_allocates _ _)) (fun _ =>
        discipline.bind (discipline.value _) (fun _ => finish _ _))
    · exact discipline.bind (discipline.value _) (fun _ => finish _ _)

/-- What reads arguments as nodes and fields keeps to the discipline. -/
structure Nested (nested : Blueprint.Nested) : Prop where
  node : ∀ place value, discipline.holds (nested.node place value)
  field : ∀ value, discipline.holds (nested.field value)

section Nested

variable {discipline} {nested : Blueprint.Nested} (inside : discipline.Nested nested)
include inside

theorem Nested.buildField (given : Arguments) :
    discipline.holds (Blueprint.buildField nested given) := by
  unfold Blueprint.buildField
  dsimp only
  split
  · exact discipline.accept _ _
  · exact discipline.bind (inside.node _ _) (fun _ => discipline.accept _ _)

theorem Nested.buildMapping (given : Arguments) :
    discipline.holds (Blueprint.buildMapping nested given) := by
  have finish (fields : Checked (List Field)) : discipline.holds (do
      let record ← Blueprint.recordOption .mapping given
      let parts ← Action.accept "mapping" (.both (.map Prod.mk fields) record)
      Descriptor.mappingOf parts.1 (parts.2.nullable?.getD false)) :=
    discipline.bind (discipline.recordOption .mapping given) (fun _ =>
      discipline.bind (discipline.accept _ _) (fun _ => discipline.reading.mappingOf _ _))
  unfold Blueprint.buildMapping
  dsimp only
  split
  · exact finish _
  · split
    · exact finish _
    · exact discipline.bind (discipline.bind (discipline.eachItem inside.field _ _)
        (fun _ => discipline.value _)) (fun _ => finish _)

theorem Nested.buildArray (given : Arguments) :
    discipline.holds (Blueprint.buildArray nested given) := by
  have finish (element : Checked Descriptor) : discipline.holds (do
      let record ← Blueprint.recordOption .array given
      let parts ← Action.accept "array" (.both (.map Prod.mk element) record)
      return Descriptor.array parts.1 parts.2.arrayOptions) :=
    discipline.bind (discipline.recordOption .array given) (fun _ =>
      discipline.bind (discipline.accept _ _) (fun _ => discipline.value _))
  unfold Blueprint.buildArray
  dsimp only
  split
  · exact finish _
  · exact discipline.bind (inside.node _ _) (fun _ => finish _)

theorem Nested.buildAny (entries : Entries) :
    discipline.holds (Blueprint.buildAny nested entries) :=
  discipline.bind (discipline.reading.ofEntries entries) (fun given =>
    discipline.bind (discipline.buildKind given) (fun _ =>
      discipline.bind (inside.buildMapping given) (fun _ =>
        discipline.bind (inside.buildArray given) (fun _ =>
          discipline.bind (discipline.buildReference given) (fun _ => discipline.value _)))))

end Nested

theorem nested (fuel : Nat) : discipline.Nested (Blueprint.nested fuel) := by
  induction fuel with
  | zero =>
      refine ⟨fun place value => ?_, fun value => ?_⟩
      · cases value <;> exact discipline.value _
      · cases value <;> exact discipline.value _
  | succ fuel inside =>
      have any (entries : Entries) : discipline.holds (do
          return Checked.accepted (← Blueprint.buildAny (Blueprint.nested fuel) entries)) :=
        discipline.bind (inside.buildAny entries) (fun _ => discipline.value _)
      have field (entries : Entries) : discipline.holds (do
          return Checked.accepted (← Blueprint.buildField (Blueprint.nested fuel)
            (← Arguments.ofEntries entries))) :=
        discipline.bind (discipline.reading.ofEntries entries) (fun given =>
          discipline.bind (inside.buildField given) (fun _ => discipline.value _))
      refine ⟨fun place value => ?_, fun value => ?_⟩
      · rw [Blueprint.nested]
        dsimp only
        split
        · exact any _
        · exact any _
        · exact inside.node _ _
      · rw [Blueprint.nested]
        dsimp only
        split
        · exact field _
        · exact field _
        · exact inside.field _

theorem blueprint (blueprint : Blueprint) (given : Arguments) :
    discipline.holds (blueprint.build given) := by
  unfold Blueprint.build
  dsimp only
  split
  · exact discipline.bind (discipline.buildKind given) (fun _ => discipline.value _)
  · exact discipline.bind ((discipline.nested _).buildMapping given)
      (fun _ => discipline.value _)
  · exact discipline.bind ((discipline.nested _).buildArray given) (fun _ => discipline.value _)
  · exact discipline.bind (discipline.buildReference given) (fun _ => discipline.value _)
  · exact discipline.bind ((discipline.nested _).buildField given) (fun _ => discipline.value _)
  · exact discipline.bind (discipline.reading.optionRecord _ given) (fun _ => discipline.value _)

/-! ### Registries -/

theorem register (registry : Registry) (name : String) (candidate : Value) (replace : Bool) :
    discipline.holds (registry.register name candidate replace) := by
  refine discipline.bind (discipline.reading.conform candidate) (fun provider => ?_)
  split
  · exact discipline.fail _
  · dsimp only
    split
    · exact discipline.bind (discipline.write _ _ _) (fun _ =>
        discipline.bind (discipline.write _ _ _) (fun _ => discipline.value _))
    · exact discipline.bind (discipline.write _ _ _) (fun _ => discipline.value _)

theorem unregister (registry : Registry) (name : String) :
    discipline.holds (registry.unregister name) := by
  unfold Registry.unregister
  split
  · exact discipline.value _
  · exact discipline.fail _

theorem lookup (registry : Registry) (name : String) :
    discipline.holds (registry.lookup name) := by
  unfold Registry.lookup
  split
  · exact discipline.value _
  · exact discipline.fail _

end Discipline

end RecordSchema
