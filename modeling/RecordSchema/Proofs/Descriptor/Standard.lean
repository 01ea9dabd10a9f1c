import RecordSchema.Descriptor.Blueprint
import RecordSchema.Descriptor.Shorthand
import RecordSchema.Proofs.Descriptor.Checked
import RecordSchema.Proofs.Provider.Portability

namespace RecordSchema

/-! What the parts of a description keep to, and with them every node that is built: by its
constructor, from named arguments, with further options, or by reading the description. -/

/-- Neither operation is lacking, and the provider is an object. -/
def Value.Conforming (provider : Value) : Prop :=
  provider.lackedOperations = [] ∧ ∀ c, provider ≠ .providerClass c

/-- A standard for values, options, option records and nodes that building in some sessions
keeps to. -/
structure Standard where
  sessions : Session → Prop
  values : Value → Prop
  options : Entries → Prop
  stored : Entries → Prop
  records : OptionRecord → Prop
  nodes : Descriptor → Prop
  makes : ∀ {session}, sessions session → ∀ instances,
    sessions { session with instances := instances }
  builds : ∀ kind given, (OptionRecord.build kind given).Yields sessions records
  items : ∀ {value items}, values value → value.items? = some items → ∀ item ∈ items, values item
  held : ∀ {value entries}, values value → value.entries? = some entries →
    Entries.Hold values entries
  layer : ∀ {value entries}, values value → value.entries? = some entries → options entries
  node : ∀ {node}, values (.descriptor node) ↔ nodes node
  field : ∀ {field}, values (.field field) ↔ nodes field.descriptor
  record : ∀ {record}, values (.options record) ↔ records record
  empty : options []
  merge : ∀ {lower upper}, options lower → options upper → options (Entries.merge lower upper)
  erase : ∀ {entries}, options entries → ∀ name, options (entries.erase name)
  snapshot : ∀ {entries}, options entries → ∀ kind, (entries.snapshot kind).Gives stored
  untouched : stored []
  unset : ∀ kind, records (.primitive (.ofKind kind))
  primitive : ∀ {options}, records (.primitive options) → nodes (.primitive options)
  mapping : ∀ {fields nullable}, nodes (.mapping fields nullable) ↔
    (fields.map Field.name).Nodup ∧ (fields.map Field.wireKey).Nodup ∧
      ∀ field ∈ fields, nodes field.descriptor
  array : ∀ {element options}, nodes (.array element options) ↔ nodes element
  ref : ∀ {provider options}, provider.Conforming → stored options →
    nodes (.ref provider options)
  resumed : ∀ {provider own}, nodes (.ref provider own) → options own

/-! ### Checks -/

/-- What a check accepts is of the sort. -/
def Checked.Holds (sort : α → Prop) : Checked α → Prop
  | .accepted value => sort value
  | .refused _ => True

theorem Checked.Holds.map {sort : α → Prop} {wider : β → Prop} {check : Checked α}
    {f : α → β} (given : check.Holds sort) (maps : ∀ value, sort value → wider (f value)) :
    (check.map f).Holds wider := by
  cases check with
  | accepted value => exact maps value given
  | refused complaints => trivial

theorem Checked.Holds.both {sort : (α → β) → Prop} {other : α → Prop} {wider : β → Prop}
    {function : Checked (α → β)} {check : Checked α} (first : function.Holds sort)
    (second : check.Holds other)
    (joins : ∀ f value, sort f → other value → wider (f value)) :
    (function.both check).Holds wider := by
  cases function with
  | accepted f =>
      cases check with
      | accepted value => exact joins f value first second
      | refused complaints => trivial
  | refused complaints => cases check <;> trivial

theorem Checked.holds_anything (check : Checked α) : check.Holds (fun _ => True) := by
  cases check <;> trivial

theorem Checked.Holds.within {sort : α → Prop} {check : Checked α} (given : check.Holds sort)
    (place : String) : (check.within place).Holds sort := by
  cases check with
  | accepted value => exact given
  | refused complaints => trivial

section Steps

variable {holds : Session → Prop}

theorem Action.accept_yields {sort : α → Prop} {check : Checked α} (given : check.Holds sort)
    (label : String) : (Action.accept label check).Yields holds sort := by
  cases check with
  | accepted value => exact .pure given
  | refused complaints => exact .fail _ _

/-- A part and its options are accepted together. -/
theorem Action.acceptPair_yields {sort : α → Prop} {part : Checked α} (inside : part.Holds sort)
    (label : String) (record : Checked OptionRecord) :
    (Action.accept label (.both (.map Prod.mk part) record)).Yields holds
      (fun pair => sort pair.1) := by
  have pairs : (part.map Prod.mk).Holds (fun pair =>
      ∀ record : OptionRecord, sort (pair record).1) :=
    inside.map (fun _ given _ => given)
  exact Action.accept_yields
    (pairs.both record.holds_anything (fun _ record each _ => each record)) _

theorem Arguments.hold_of_ofEntries? {sort : Value → Prop} {entries : Entries}
    {given : Arguments} (inside : entries.Hold sort) (read : ofEntries? entries = some given) :
    ∀ argument ∈ given, sort argument.2 := by
  induction entries generalizing given with
  | nil =>
      cases read
      exact List.forall_mem_nil _
  | cons entry rest induction =>
      obtain ⟨first, others⟩ := List.forall_mem_cons.mp inside
      obtain ⟨key, value⟩ := entry
      cases key with
      | text name =>
          rw [ofEntries?] at read
          split at read
          · exact nomatch read
          · obtain ⟨arguments, tail, rfl⟩ := Option.map_eq_some_iff.mp read
            exact List.forall_mem_cons.mpr ⟨first, induction others tail⟩
      | _ => exact nomatch read

theorem Arguments.ofEntries_yields {sort : Value → Prop} {entries : Entries}
    (inside : entries.Hold sort) :
    (Arguments.ofEntries entries).Yields holds (fun given =>
      ∀ argument ∈ given, sort argument.2) := by
  unfold ofEntries
  cases read : ofEntries? entries with
  | none => exact .fault _ _
  | some given => exact .pure (hold_of_ofEntries? inside read)

/-- Arguments of any sort. -/
theorem Arguments.ofEntries_keeps (entries : Entries) :
    (Arguments.ofEntries entries).Yields holds (fun _ => True) := by
  have anything : entries.Hold (fun _ => True) := fun _ _ => trivial
  exact (ofEntries_yields anything).weaken (fun _ _ => trivial)

theorem Arguments.holds_get? {sort : Value → Prop} {given : Arguments}
    (inside : ∀ argument ∈ given, sort argument.2) {name : String} {value : Value}
    (found : given.get? name = some value) : sort value := by
  obtain ⟨argument, among, rfl⟩ := Option.map_eq_some_iff.mp found
  exact inside argument (List.mem_of_find?_eq_some among)

theorem Shorthand.fieldOptions_yields (options : Entries) :
    (Shorthand.fieldOptions options).Yields holds
      (fun own => own.rest = (options.erase "optional").erase "key") := by
  have optional : (Shorthand.optionalOf options).Yields holds (fun _ => True) := by
    unfold Shorthand.optionalOf
    split
    · exact .pure trivial
    · exact .pure trivial
    · exact .throw _ _
  have key : (Shorthand.keyOf options).Yields holds (fun _ => True) := by
    unfold Shorthand.keyOf
    split
    · exact .pure trivial
    · exact .pure trivial
    · exact .pure trivial
    · exact .throw _ _
  exact .bind optional (fun _ _ => .bind key (fun _ _ => .pure rfl))

theorem Shorthand.listed_yields (kind : MapKind) (entries : Entries) :
    (Shorthand.listed kind entries).Yields holds (fun _ => True) := by
  unfold Shorthand.listed
  split
  · exact .fault _ _
  · exact .pure trivial

end Steps

namespace Standard

variable (standard : Standard)

/-! ### Constructors -/

theorem conform_yields (candidate : Value) :
    candidate.conform.Yields standard.sessions Value.Conforming := by
  unfold Value.conform
  split
  · exact .fail _ _
  · next able =>
      have able : candidate.lackedOperations = [] := by simpa using able
      split
      · next c =>
          split
          · exact .throw _ _
          · refine ⟨fun session kept => standard.makes kept _, fun session value _ made => ?_⟩
            cases made
            exact ⟨able, fun c same => nomatch same⟩
      · next object => exact .pure ⟨able, object⟩

theorem snapshot_yields {entries : Entries} (given : standard.options entries) (kind : MapKind) :
    (Action.copying (entries.snapshot kind)).Yields standard.sessions standard.stored :=
  Action.copying_yields_within standard.makes (standard.snapshot given kind)

theorem buildPrimitive_yields (kind : Kind) (given : Arguments) :
    (Descriptor.buildPrimitive kind given).Yields standard.sessions standard.nodes := by
  refine .bind (standard.builds _ given) (fun record kept => ?_)
  cases record with
  | primitive options => exact .pure (standard.primitive kept)
  | mapping nullable => exact .pure (standard.primitive (standard.unset kind))
  | array options => exact .pure (standard.primitive (standard.unset kind))

theorem mappingOf_yields {fields : List Field}
    (inside : ∀ field ∈ fields, standard.nodes field.descriptor) (nullable : Bool) :
    (Descriptor.mappingOf fields nullable).Yields standard.sessions standard.nodes := by
  unfold Descriptor.mappingOf
  cases distinct : Descriptor.clashes fields with
  | nil =>
      obtain ⟨names, keys⟩ := Descriptor.clashes_eq_nil.mp distinct
      exact .pure (standard.mapping.mpr ⟨names, keys, inside⟩)
  | cons complaint complaints => exact .fail _ _

theorem buildMapping_yields {fields : List Field}
    (inside : ∀ field ∈ fields, standard.nodes field.descriptor) (given : Arguments) :
    (Descriptor.buildMapping fields given).Yields standard.sessions standard.nodes :=
  .bind (standard.builds _ given) (fun _ _ => standard.mappingOf_yields inside _)

theorem buildArray_yields {element : Descriptor} (inside : standard.nodes element)
    (given : Arguments) :
    (Descriptor.buildArray element given).Yields standard.sessions standard.nodes := by
  refine .bind (standard.builds _ given) (fun record _ => ?_)
  cases element.isForeign with
  | false => exact .pure (standard.array.mpr inside)
  | true => exact .fail _ _

theorem buildRef_yields (candidate : Value) {options : Entries}
    (given : standard.options options) :
    (Descriptor.buildRef candidate options).Yields standard.sessions standard.nodes :=
  .bind (standard.conform_yields candidate) (fun _ object =>
    .bind (standard.snapshot_yields given .plain) (fun _ kept => .pure (standard.ref object kept)))

theorem withOptions_yields {node : Descriptor} (kept : standard.nodes node) {options : Entries}
    (given : standard.options options) :
    (node.withOptions options).Yields standard.sessions standard.nodes := by
  refine .bind (Arguments.ofEntries_keeps options) (fun arguments _ => ?_)
  cases node with
  | primitive own => exact standard.buildPrimitive_yields _ _
  | mapping fields nullable => exact standard.buildMapping_yields (standard.mapping.mp kept).2.2 _
  | array element own => exact standard.buildArray_yields (standard.array.mp kept) _
  | ref provider own =>
      exact standard.buildRef_yields _ (standard.merge (standard.resumed kept) given)
  | foreign value => exact .fault _ _

/-! ### Shorthand -/

theorem named_yields (registry : Registry) (name : String) {options : Entries}
    (given : standard.options options) :
    (Shorthand.named registry name options).Yields standard.sessions standard.nodes := by
  unfold Shorthand.named
  split
  · exact .bind (Arguments.ofEntries_keeps options)
      (fun _ _ => standard.buildPrimitive_yields _ _)
  · split
    · exact standard.buildRef_yields _ given
    · exact .fail _ _

theorem attached_yields {node : Descriptor} (kept : standard.nodes node) {options : Entries}
    (given : standard.options options) :
    (Shorthand.attached node options).Yields standard.sessions standard.nodes := by
  unfold Shorthand.attached
  split
  · exact .pure kept
  · exact standard.withOptions_yields kept given

/-- What is said of the field at which a node stands, around the node. -/
theorem around_yields {options : Entries} (given : standard.options options)
    {build : Entries → Action Descriptor}
    (builds : ∀ rest, standard.options rest →
      (build rest).Yields standard.sessions standard.nodes) :
    (do
      let own ← Shorthand.fieldOptions options
      return (⟨← build own.rest, own.optional, own.key⟩ : Parsed)).Yields standard.sessions
        (fun parsed => standard.nodes parsed.descriptor) := by
  refine .bind (Shorthand.fieldOptions_yields options) (fun own rest => ?_)
  have inside : standard.options own.rest := by
    rw [rest]
    exact standard.erase (standard.erase given _) _
  exact .bind (builds own.rest inside) (fun _ made => .pure made)

mutual
theorem parse_yields (registry : Registry) : (spec : Value) → standard.values spec →
    (options : Entries) → standard.options options →
      (Shorthand.parse registry spec options).Yields standard.sessions
        (fun parsed => standard.nodes parsed.descriptor)
  | .tuple [], _, _, _ => .throw _ _
  | .tuple [_], _, _, _ => .throw _ _
  | .tuple (first :: second :: rest), inside, options, given => by
      have parts := standard.items inside rfl
      cases second with
      | map kind layer =>
          cases rest with
          | nil =>
              have layered := standard.layer (parts (.map kind layer) (by simp)) rfl
              exact parse_yields registry first (parts first (by simp)) _
                (standard.merge layered given)
          | cons third more => exact .throw _ _
      | _ => exact .throw _ _
  | .map kind entries, inside, options, given => by
      have held := standard.held inside rfl
      rw [Shorthand.parse]
      split
      · have layered := standard.erase (standard.layer inside rfl) Shorthand.typeKey
        exact .bind (Shorthand.listed_yields kind entries) (fun _ _ =>
          parseTyped_yields registry entries held _ (standard.merge layered given))
      · refine .bind (Shorthand.fieldOptions_yields options) (fun own _ => ?_)
        refine .bind (Shorthand.listed_yields kind entries) (fun _ _ => ?_)
        refine .bind (parseFields_yields registry entries held) (fun fields made => ?_)
        exact .bind (Arguments.ofEntries_keeps _) (fun arguments _ =>
          .bind (standard.buildMapping_yields made arguments) (fun _ built => .pure built))
  | .list items, inside, options, given =>
      standard.around_yields given (fun _ _ =>
        parseElement_yields registry items (standard.items inside rfl) _)
  | .descriptor node, inside, options, given =>
      standard.around_yields given (fun _ rest =>
        standard.attached_yields (standard.node.mp inside) rest)
  | .text name, _, options, given =>
      standard.around_yields given (fun _ rest => standard.named_yields registry name rest)
  | .null, _, options, _ | .bool _, _, options, _ | .number _, _, options, _
  | .bytes false _, _, options, _ =>
      .bind (Shorthand.fieldOptions_yields options) (fun _ _ => .throw _ _)
  | .bytes true _, _, options, given | .set _ _, _, options, given
  | .date _ _ _, _, options, given | .moment _, _, options, given
  | .providerClass _, _, options, given | .provider _ _, _, options, given
  | .field _, _, options, given | .options _, _, options, given
  | .other _, _, options, given =>
      standard.around_yields given (fun _ rest => standard.buildRef_yields _ rest)
termination_by structural spec => spec

theorem parseTyped_yields (registry : Registry) : (entries : List (Value × Value)) →
    Entries.Hold standard.values entries → (options : Entries) → standard.options options →
      (Shorthand.parseTyped registry entries options).Yields standard.sessions
        (fun parsed => standard.nodes parsed.descriptor)
  | [], _, _, _ => .fault _ _
  | (key, spec) :: rest, inside, options, given => by
      have both := List.forall_mem_cons.mp inside
      have tail := parseTyped_yields registry rest both.2 options given
      cases key with
      | text name =>
          rw [Shorthand.parseTyped]
          split
          · exact parse_yields registry spec both.1 options given
          · exact tail
      | _ => exact tail
termination_by structural entries => entries

theorem parseElement_yields (registry : Registry) : (items : List Value) →
    (∀ item ∈ items, standard.values item) → (options : Entries) →
      (Shorthand.parseElement registry items options).Yields standard.sessions standard.nodes
  | [], _, _ => .fail _ _
  | [element], inside, options => by
      have given := List.forall_mem_singleton.mp inside
      refine .bind (parse_yields registry element given [] standard.empty) (fun parsed made => ?_)
      exact .bind (Arguments.ofEntries_keeps _)
        (fun arguments _ => standard.buildArray_yields made arguments)
  | _ :: _ :: _, _, _ => .fail _ _
termination_by structural items => items

theorem parseFields_yields (registry : Registry) : (entries : List (Value × Value)) →
    Entries.Hold standard.values entries →
      (Shorthand.parseFields registry entries).Yields standard.sessions
        (fun fields => ∀ field ∈ fields, standard.nodes field.descriptor)
  | [], _ => .pure (List.forall_mem_nil _)
  | (key, spec) :: rest, inside => by
      have both := List.forall_mem_cons.mp inside
      have tail := parseFields_yields registry rest both.2
      cases key with
      | text name =>
          refine .bind (parse_yields registry spec both.1 [] standard.empty) (fun parsed made => ?_)
          exact .bind tail (fun fields others => .pure (List.forall_mem_cons.mpr ⟨made, others⟩))
      | _ => exact .throw _ _
termination_by structural entries => entries
end

/-- Reading a description that meets the standard, with any registry. -/
theorem read_yields {spec : Value} (inside : standard.values spec) {options : Entries}
    (given : standard.options options) (registry : Option Registry) :
    (spec.parse options registry).Yields standard.sessions standard.nodes := by
  have seen : (get : Action Session).Yields standard.sessions (fun _ => True) :=
    ⟨fun _ kept => kept, fun _ _ _ _ => trivial⟩
  refine .bind seen (fun session _ => ?_)
  exact .bind (standard.parse_yields _ spec inside options given) (fun _ made => .pure made)

/-! ### Named arguments -/

section Named

variable {given : Arguments} (inside : ∀ argument ∈ given, standard.values argument.2)
include inside

theorem primitiveOptions_yields (kind : Kind) :
    (Blueprint.primitiveOptions kind given).Yields standard.sessions
      (Checked.Holds (fun options => standard.nodes (.primitive options))) := by
  have unset := standard.primitive (standard.unset kind)
  unfold Blueprint.primitiveOptions
  split
  · exact .pure unset
  · exact .pure unset
  · refine .bind (Arguments.ofEntries_keeps _) (fun arguments _ => ?_)
    refine .bind (standard.builds _ arguments) (fun record kept => .pure ?_)
    cases record with
    | primitive options => exact standard.primitive kept
    | mapping nullable => exact unset
    | array options => exact unset
  · next own found =>
      split
      · exact .pure (standard.primitive (standard.record.mp (Arguments.holds_get? inside found)))
      · exact .pure trivial
  · exact .pure trivial

omit inside in
theorem strayOptions_keeps (given : Arguments) :
    (Blueprint.strayOptions given).Yields standard.sessions (fun _ => True) := by
  unfold Blueprint.strayOptions
  split
  · exact .pure trivial
  · exact .pure trivial
  · exact .bind (Arguments.ofEntries_keeps _) (fun arguments _ =>
      .bind (standard.builds _ arguments) (fun _ _ => .pure trivial))
  · exact .pure trivial
  · exact .pure trivial

theorem blueprintPrimitive_yields :
    (Blueprint.buildPrimitive given).Yields standard.sessions standard.nodes := by
  unfold Blueprint.buildPrimitive
  split
  · exact .bind (standard.strayOptions_keeps given) (fun _ _ => .fail _ _)
  · split
    · exact .fault _ _
    · split
      · exact .bind (standard.primitiveOptions_yields inside _) (fun _ holds =>
          .bind (Action.accept_yields holds _) (fun _ kept => .pure kept))
      · exact .bind (standard.strayOptions_keeps given) (fun _ _ => .fail _ _)

omit inside in
theorem recordOption_keeps (kind : RecordKind) (given : Arguments) :
    (Blueprint.recordOption kind given).Yields standard.sessions (fun _ => True) := by
  unfold Blueprint.recordOption
  split
  · exact .bind (standard.builds _ _) (fun _ _ => .pure trivial)
  · exact .bind (standard.builds _ _) (fun _ _ => .pure trivial)
  · exact .bind (Arguments.ofEntries_keeps _) (fun _ _ =>
      .bind (standard.builds _ _) (fun _ _ => .pure trivial))
  · split
    · exact .pure trivial
    · exact .pure trivial
  · exact .pure trivial

theorem buildReference_yields :
    (Blueprint.buildReference given).Yields standard.sessions standard.nodes := by
  have finish {provider : Checked Value} {options : Checked Entries}
      (object : provider.Holds Value.Conforming) (kept : options.Holds standard.stored) :
      (Action.accept "provider reference" (.both (.map Descriptor.ref provider) options)).Yields
        standard.sessions standard.nodes := by
    have refers : (provider.map Descriptor.ref).Holds (fun make =>
        ∀ options, standard.stored options → standard.nodes (make options)) :=
      object.map (fun _ able _ given => standard.ref able given)
    exact Action.accept_yields (refers.both kept (fun _ options each given => each options given)) _
  have untouched : (Checked.accepted ([] : Entries)).Holds standard.stored := standard.untouched
  have layer {kind : MapKind} {entries : Entries}
      (found : given.get? "options" = some (.map kind entries)) : standard.options entries :=
    standard.layer (Arguments.holds_get? inside found) rfl
  unfold Blueprint.buildReference
  dsimp only
  split
  on_goal 1 =>
    have missed : (Checked.refused [Blueprint.missing "provider"]).Holds Value.Conforming := trivial
    refine .bind (.pure missed) (fun provider object => ?_)
  on_goal 2 =>
    refine .bind (standard.conform_yields _) (fun provider able => ?_)
    have accepted : (Checked.accepted provider).Holds Value.Conforming := able
    refine .bind (.pure accepted) (fun provider object => ?_)
  -- Whatever was given as the provider, the options are read next.
  all_goals
    split
    · exact finish object untouched
    · exact finish object untouched
    · next found =>
        refine .bind (standard.snapshot_yields (layer found) _) (fun options kept => ?_)
        have accepted : (Checked.accepted options).Holds standard.stored := kept
        exact .bind (.pure accepted) (fun _ kept => finish object kept)
    · have refused : (Checked.refused [.invalid ["options"] .optionsNotMapping]).Holds
          standard.stored := trivial
      exact .bind (.pure refused) (fun _ kept => finish object kept)

end Named

end Standard

theorem Blueprint.eachItem_yields {holds : Session → Prop} {sort : α → Prop}
    {step : Value → Action (Checked α)} {items : List Value}
    (gives : ∀ item ∈ items, (step item).Yields holds (Checked.Holds sort)) (position : Nat) :
    (eachItem step position items).Yields holds
      (Checked.Holds (fun found => ∀ part ∈ found, sort part)) := by
  induction items generalizing position with
  | nil => exact .pure (List.forall_mem_nil _)
  | cons item items induction =>
      rw [List.forall_mem_cons] at gives
      refine .bind gives.1 (fun check kept => ?_)
      refine .bind (induction gives.2 (position + 1)) (fun rest others => .pure ?_)
      have joins : ((check.within (toString position)).map List.cons).Holds
          (fun join => ∀ found, (∀ part ∈ found, sort part) → ∀ part ∈ join found, sort part) :=
        (kept.within _).map
          (fun part first found rest => List.forall_mem_cons.mpr ⟨first, rest⟩)
      exact joins.both others (fun join found each => each found)

namespace Standard

variable (standard : Standard)

/-- What is read as a node, or as a field, is as the standard asks. -/
structure Admits (nested : Blueprint.Nested) : Prop where
  node : ∀ place value, standard.values value →
    (nested.node place value).Yields standard.sessions (Checked.Holds standard.nodes)
  field : ∀ value, standard.values value → (nested.field value).Yields standard.sessions
    (Checked.Holds (fun field => standard.nodes field.descriptor))

section Nested

variable {standard} {nested : Blueprint.Nested} {given : Arguments}

theorem Admits.buildField (admits : standard.Admits nested)
    (inside : ∀ argument ∈ given, standard.values argument.2) :
    (Blueprint.buildField nested given).Yields standard.sessions
      (fun field => standard.nodes field.descriptor) := by
  have finish {node : Checked Descriptor} (kept : node.Holds standard.nodes)
      (name : Checked String) (optional : Checked Bool) (key : Checked (Option String)) :
      (Action.accept "field"
        (.both (.both (.both (.map Field.mk name) node) optional) key)).Yields standard.sessions
          (fun field => standard.nodes field.descriptor) := by
    have named : (name.map Field.mk).Holds (fun make => ∀ node, standard.nodes node →
        ∀ optional key, standard.nodes (make node optional key).descriptor) :=
      name.holds_anything.map (fun _ _ _ given _ _ => given)
    have described : ((name.map Field.mk).both node).Holds (fun make =>
        ∀ optional key, standard.nodes (make optional key).descriptor) :=
      named.both kept (fun _ node each given => each node given)
    have flagged : (((name.map Field.mk).both node).both optional).Holds (fun make =>
        ∀ key, standard.nodes (make key).descriptor) :=
      described.both optional.holds_anything (fun _ optional each _ => each optional)
    exact Action.accept_yields
      (flagged.both key.holds_anything (fun _ key each _ => each key)) _
  unfold Blueprint.buildField
  dsimp only
  split
  · have missed : (Checked.refused [Blueprint.missing "descriptor"]).Holds standard.nodes := trivial
    exact finish missed _ _ _
  · next value found =>
      exact .bind (admits.node _ value (Arguments.holds_get? inside found))
        (fun _ kept => finish kept _ _ _)

theorem Admits.buildMapping (admits : standard.Admits nested)
    (inside : ∀ argument ∈ given, standard.values argument.2) :
    (Blueprint.buildMapping nested given).Yields standard.sessions standard.nodes := by
  have finish {fields : Checked (List Field)}
      (each : fields.Holds (fun fields => ∀ field ∈ fields, standard.nodes field.descriptor)) :
      (do
        let record ← Blueprint.recordOption .mapping given
        let parts ← Action.accept "mapping" (.both (.map Prod.mk fields) record)
        Descriptor.mappingOf parts.1 (parts.2.nullable?.getD false)).Yields standard.sessions
          standard.nodes :=
    .bind (standard.recordOption_keeps .mapping given) (fun record _ =>
      .bind (Action.acceptPair_yields each _ record)
        (fun _ fields => standard.mappingOf_yields fields _))
  unfold Blueprint.buildMapping
  dsimp only
  split
  · have none : (Checked.accepted ([] : List Field)).Holds
        (fun fields => ∀ field ∈ fields, standard.nodes field.descriptor) := List.forall_mem_nil _
    exact finish none
  · next value found =>
      split
      · have unlisted : (Checked.refused [.invalid ["fields"] .notTuple]).Holds
            (fun fields : List Field => ∀ field ∈ fields, standard.nodes field.descriptor) :=
          trivial
        exact finish unlisted
      · next items listed =>
          have each := standard.items (Arguments.holds_get? inside found) listed
          have read : (Blueprint.fieldsOf nested items).Yields standard.sessions
              (Checked.Holds (fun fields => ∀ field ∈ fields, standard.nodes field.descriptor)) :=
            .bind (Blueprint.eachItem_yields
                (fun item among => admits.field item (each item among)) 0)
              (fun _ kept => .pure (kept.within _))
          exact .bind read (fun _ kept => finish kept)

theorem Admits.buildArray (admits : standard.Admits nested)
    (inside : ∀ argument ∈ given, standard.values argument.2) :
    (Blueprint.buildArray nested given).Yields standard.sessions standard.nodes := by
  have finish {element : Checked Descriptor} (kept : element.Holds standard.nodes) :
      (do
        let record ← Blueprint.recordOption .array given
        let parts ← Action.accept "array" (.both (.map Prod.mk element) record)
        return Descriptor.array parts.1 parts.2.arrayOptions).Yields standard.sessions
          standard.nodes :=
    .bind (standard.recordOption_keeps .array given) (fun record _ =>
      .bind (Action.acceptPair_yields kept _ record)
        (fun _ element => .pure (standard.array.mpr element)))
  unfold Blueprint.buildArray
  dsimp only
  split
  · have missed : (Checked.refused [Blueprint.missing "element"]).Holds standard.nodes := trivial
    exact finish missed
  · next value found =>
      exact .bind (admits.node _ value (Arguments.holds_get? inside found))
        (fun _ kept => finish kept)

theorem Admits.buildAny (admits : standard.Admits nested) {entries : Entries}
    (inside : entries.Hold standard.values) :
    (Blueprint.buildAny nested entries).Yields standard.sessions standard.nodes :=
  .bind (Arguments.ofEntries_yields inside) (fun _ arguments =>
    .bind (standard.blueprintPrimitive_yields arguments) (fun _ built =>
      .bind (admits.buildMapping arguments) (fun _ _ =>
        .bind (admits.buildArray arguments) (fun _ _ =>
          .bind (standard.buildReference_yields arguments) (fun _ _ => .pure built)))))

end Nested

theorem nested_admits (fuel : Nat) : standard.Admits (Blueprint.nested fuel) := by
  induction fuel with
  | zero =>
      refine ⟨fun place value inside => ?_, fun value inside => ?_⟩
      · cases value with
        | descriptor node => exact .pure (standard.node.mp inside)
        | _ => exact .pure trivial
      · cases value with
        | field field => exact .pure (standard.field.mp inside)
        | _ => exact .pure trivial
  | succ fuel induction =>
      have anyNode {entries : Entries} (inside : entries.Hold standard.values) :
          (return .accepted (← Blueprint.buildAny (Blueprint.nested fuel) entries) :
            Action (Checked Descriptor)).Yields standard.sessions (Checked.Holds standard.nodes) :=
        .bind (induction.buildAny inside) (fun _ built => .pure built)
      have field {entries : Entries} (inside : entries.Hold standard.values) :
          (do
            let given ← Arguments.ofEntries entries
            return .accepted (← Blueprint.buildField (Blueprint.nested fuel) given) :
              Action (Checked Field)).Yields standard.sessions
            (Checked.Holds (fun field => standard.nodes field.descriptor)) :=
        .bind (Arguments.ofEntries_yields inside) (fun _ arguments =>
          .bind (induction.buildField arguments) (fun _ built => .pure built))
      refine ⟨fun place value inside => ?_, fun value inside => ?_⟩
      · cases value with
        | map kind entries =>
            cases kind with
            | plain => exact anyNode (standard.held inside rfl)
            | record => exact anyNode (standard.held inside rfl)
            | readOnly => exact induction.node place _ inside
        | _ => exact induction.node place _ inside
      · cases value with
        | map kind entries =>
            cases kind with
            | plain => exact field (standard.held inside rfl)
            | record => exact field (standard.held inside rfl)
            | readOnly => exact induction.field _ inside
        | _ => exact induction.field _ inside

theorem build_yields (blueprint : Blueprint) {given : Arguments}
    (inside : ∀ argument ∈ given, standard.values argument.2) :
    (blueprint.build given).Yields standard.sessions standard.values := by
  have admits := standard.nested_admits
    (entriesDepth (given.map (fun argument => (.text argument.1, argument.2))))
  have described {node : Action Descriptor}
      (built : node.Yields standard.sessions standard.nodes) :
      (return .descriptor (← node) : Action Value).Yields standard.sessions standard.values :=
    .bind built (fun _ kept => .pure (standard.node.mpr kept))
  cases blueprint with
  | primitive => exact described (standard.blueprintPrimitive_yields inside)
  | mapping => exact described (admits.buildMapping inside)
  | array => exact described (admits.buildArray inside)
  | reference => exact described (standard.buildReference_yields inside)
  | field => exact .bind (admits.buildField inside) (fun _ kept => .pure (standard.field.mpr kept))
  | optionRecord kind =>
      exact .bind (standard.builds kind given) (fun _ kept => .pure (standard.record.mpr kept))

end Standard

end RecordSchema
