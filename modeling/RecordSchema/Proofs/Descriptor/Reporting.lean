import RecordSchema.Proofs.Descriptor.Construction
import RecordSchema.Proofs.Options.Layers
import RecordSchema.Proofs.Provider.Snapshot

namespace RecordSchema

/-! What reading a description reports.  It makes a node, reports an error of the description,
or meets a mishap: options that are misused, a mapping that cannot list its entries, an error
that cannot be written, or a provider that cannot be made. -/

/-- Every error of the action is one of a description, or a fault that may be met. -/
def Action.Reports (mishap : Fault → Prop) (action : Action α) : Prop :=
  ∀ session error, action.outcome session = .error error →
    (∃ cause, error = .definition cause) ∨ ∃ fault, error = .fault fault ∧ mishap fault

namespace Action.Reports

variable {mishap : Fault → Prop}

protected theorem pure (value : α) : (pure value : Action α).Reports mishap :=
  fun _ _ failed => nomatch failed

protected theorem fail (cause : DefinitionError) :
    (Action.fail cause : Action α).Reports mishap := by
  intro session error failed
  cases failed
  exact .inl ⟨cause, rfl⟩

protected theorem fault {fault : Fault} (given : mishap fault) :
    (Action.fault fault : Action α).Reports mishap := by
  intro session error failed
  cases failed
  exact .inr ⟨fault, rfl, given⟩

protected theorem failShowing {shown : Value} (cause : DefinitionError)
    (given : shown.hasSource = false → mishap .value) :
    (Action.failShowing shown cause : Action α).Reports mishap := by
  unfold Action.failShowing Error.showing
  split
  · exact .fail cause
  · next unwritten => exact .fault (given (Bool.eq_false_iff.mpr unwritten))

protected theorem get : (get : Action Session).Reports mishap :=
  fun _ _ failed => nomatch failed

protected theorem nullableAny : nullableAny.Reports mishap :=
  fun _ _ failed => nomatch failed

/-- The second step may count on what the first one gives. -/
protected theorem given {action : Action α} {next : α → Action β} {sort : α → Prop}
    (gives : action.Gives sort) (first : action.Reports mishap)
    (second : ∀ value, sort value → (next value).Reports mishap) :
    (action >>= next).Reports mishap := by
  intro session error failed
  rw [outcome_bind] at failed
  cases result : action.outcome session with
  | ok value =>
      rw [result] at failed
      exact second value (gives.gives session value trivial result) _ error failed
  | error given =>
      rw [result] at failed
      cases failed
      exact first session _ result

protected theorem bind {action : Action α} {next : α → Action β}
    (first : action.Reports mishap) (second : ∀ value, (next value).Reports mishap) :
    (action >>= next).Reports mishap :=
  .given (.anything action) first (fun value _ => second value)

protected theorem weaken {wider : Fault → Prop} {action : Action α}
    (reports : action.Reports mishap) (wide : ∀ fault, mishap fault → wider fault) :
    action.Reports wider :=
  fun session error failed => (reports session error failed).imp_right
    (fun ⟨fault, same, given⟩ => ⟨fault, same, wide fault given⟩)

protected theorem accept (label : String) : (check : Checked α) →
    (accept label check).Reports mishap
  | .accepted value => .pure value
  | .refused _ => .fail _

protected theorem copying {step : Copying α} {works : Bool} (decided : step.Decided works)
    (given : works = false → mishap .type) : (copying step).Reports mishap := by
  intro session error failed
  have result := decided session.instances
  rw [outcome_copying] at failed
  cases run : (step.run.run session.instances).1 with
  | ok value =>
      rw [run] at failed
      exact nomatch failed
  | error fault =>
      rw [run] at failed result
      cases failed
      exact .inr ⟨.type, congrArg Error.fault result.2, given result.1⟩

end Action.Reports

/-- The class has all operations, but making an object of it fails by itself. -/
def ProviderClass.Breaks (c : ProviderClass) (fault : Fault) : Prop :=
  c.lacks = [] ∧ ∃ uncaught, c.refusal = some (.fault fault uncaught)

namespace Shorthand

/-! ### The parts of a description -/

/-- The options of a core that do not belong to the field it stands at. -/
def nodeOptions (options : Entries) : Entries :=
  (options.erase "optional").erase "key"

theorem nodeOptions_append (before after : Entries) :
    nodeOptions (before ++ after) = nodeOptions before ++ nodeOptions after := by
  simp only [nodeOptions, Entries.erase_append]

def isLayer : Value → Bool
  | .tuple _ => true
  | .map _ entries => Entries.contains entries typeKey
  | _ => false

/-- Reading the description, with the options laid over it, comes to the part, with the options
given laid over that. -/
inductive Reaches : Value → Entries → Value → Entries → Prop where
  | here (spec : Value) (options : Entries) : Reaches spec options spec options
  | pair {inner part : Value} {kind : MapKind} {layer options given : Entries}
      (inside : Reaches inner (Entries.merge layer options) part given) :
      Reaches (.tuple [inner, .map kind layer]) options part given
  | typed {inner part : Value} {kind : MapKind} {entries options given : Entries}
      (described : Entries.get? entries typeKey = some inner)
      (inside : Reaches inner (Entries.merge (Entries.erase entries typeKey) options) part given) :
      Reaches (.map kind entries) options part given
  | field {below part : Value} {name : String} {kind : MapKind}
      {entries options given : Entries} (plain : Entries.contains entries typeKey = false)
      (among : (.text name, below) ∈ entries) (inside : Reaches below [] part given) :
      Reaches (.map kind entries) options part given
  | element {below part : Value} {options given : Entries} (inside : Reaches below [] part given) :
      Reaches (.list [below]) options part given

/-- The core stands in the description, and its node is given the options. -/
def Bears (spec : Value) (options : Entries) (core : Value) (given : Entries) : Prop :=
  isLayer core = false ∧ ∃ laid, Reaches spec options core laid ∧ nodeOptions laid = given

namespace Bears

variable {bottom : Value} {options given : Entries}

theorem core {spec : Value} (options : Entries) (bare : isLayer spec = false) :
    Bears spec options spec (nodeOptions options) :=
  ⟨bare, options, .here spec options, rfl⟩

theorem pair {inner : Value} {kind : MapKind} {layer : Entries}
    (inside : Bears inner (Entries.merge layer options) bottom given) :
    Bears (.tuple [inner, .map kind layer]) options bottom given :=
  inside.imp_right (fun ⟨laid, reaches, same⟩ => ⟨laid, .pair reaches, same⟩)

theorem typed {inner : Value} {kind : MapKind} {entries : Entries}
    (described : Entries.get? entries typeKey = some inner)
    (inside : Bears inner (Entries.merge (Entries.erase entries typeKey) options) bottom given) :
    Bears (.map kind entries) options bottom given :=
  inside.imp_right (fun ⟨laid, reaches, same⟩ => ⟨laid, .typed described reaches, same⟩)

theorem field {below : Value} {name : String} {kind : MapKind} {entries : Entries}
    (plain : Entries.contains entries typeKey = false) (among : (.text name, below) ∈ entries)
    (inside : Bears below [] bottom given) : Bears (.map kind entries) options bottom given :=
  inside.imp_right (fun ⟨laid, reaches, same⟩ => ⟨laid, .field plain among reaches, same⟩)

theorem element {below : Value} (inside : Bears below [] bottom given) :
    Bears (.list [below]) options bottom given :=
  inside.imp_right (fun ⟨laid, reaches, same⟩ => ⟨laid, .element reaches, same⟩)

end Bears

/-- Whether the options of a core are handed over as arguments. -/
def takesArguments : Value → Bool
  | .text name => (Kind.ofName? name).isSome
  | .map _ _ | .list _ | .descriptor _ => true
  | _ => false

/-- The options that a core copies into its snapshot. -/
def copied : Value → Entries → Entries
  | .descriptor (.ref _ own), given => if given.isEmpty then [] else Entries.merge own given
  | core, given => if takesArguments core then [] else given

/-- Options with a reserved or no name for a core that takes arguments, or options that cannot
be listed or copied for one that refers to a provider. -/
def Misused (core : Value) (given : Entries) : Prop :=
  (takesArguments core = true ∧
    ∃ entry ∈ given, entry.1 = .text Arguments.reservedName ∨ entry.1.isText = false) ∨
  (entriesListable (copied core given) && entriesCopyable (copied core given)) = false

def recordKind? : Value → Option RecordKind
  | .text name => (Kind.ofName? name).map .primitive
  | .map _ _ => some .mapping
  | .list _ => some .array
  | .descriptor (.primitive options) => some (.primitive options.kind)
  | .descriptor (.mapping _ _) => some .mapping
  | .descriptor (.array _ _) => some .array
  | _ => none

/-- An option that the kind of the core does not declare, whatever its name is. -/
def Undeclared (core : Value) (given : Entries) : Prop :=
  ∃ kind, recordKind? core = some kind ∧
    ∃ entry ∈ given, ∀ name ∈ kind.declared, entry.1 ≠ .text name

/-! ### Mishaps -/

/-- What an error about the part, or about the options laid over it, writes out. -/
inductive Shows : Value → Entries → Value → Prop where
  | unpaired {items : List Value} (options : Entries)
      (wrong : ∀ inner kind layer, items ≠ [inner, .map kind layer]) :
      Shows (.tuple items) options (.tuple items)
  | optional {spec given : Value} {options : Entries} (bare : isLayer spec = false)
      (found : options.get? "optional" = some given) (wrong : ∀ truth, given ≠ .bool truth) :
      Shows spec options given
  | key {spec given : Value} {options : Entries} (bare : isLayer spec = false)
      (found : options.get? "key" = some given) (wrong : given ≠ .null ∧ given.isText = false) :
      Shows spec options given
  | name {kind : MapKind} {entries : Entries} (options : Entries) {name part : Value}
      (plain : Entries.contains entries typeKey = false) (among : (name, part) ∈ entries)
      (wrong : name.isText = false) : Shows (.map kind entries) options name
  | number (value : Number) (options : Entries) : Shows (.number value) options (.number value)

/-- The part needs an object of the class. -/
inductive Asks (names : Registry) : Value → Entries → ProviderClass → Prop where
  | itself (c : ProviderClass) (options : Entries) : Asks names (.providerClass c) options c
  | named {name : String} {c : ProviderClass} (options : Entries) (free : Kind.ofName? name = none)
      (found : names.get? name = some (.providerClass c)) : Asks names (.text name) options c
  | again (c : ProviderClass) (own : Entries) {options : Entries}
      (filled : nodeOptions options ≠ []) :
      Asks names (.descriptor (.ref (.providerClass c) own)) options c

/-- What can go wrong at a part that is no error of the description. -/
inductive Mishap (names : Registry) : Value → Entries → Fault → Prop where
  | misused {core : Value} {options : Entries} (bare : isLayer core = false)
      (misused : Misused core (nodeOptions options)) : Mishap names core options .type
  | hidden {kind : MapKind} {entries : Entries} (options : Entries)
      (hidden : Entries.hidden kind entries = true) : Mishap names (.map kind entries) options .type
  | unwritten {part shown : Value} {options : Entries} (shows : Shows part options shown)
      (endless : shown.hasSource = false) : Mishap names part options .value
  | broken {part : Value} {options : Entries} {c : ProviderClass} {fault : Fault}
      (asks : Asks names part options c) (breaks : c.Breaks fault) :
      Mishap names part options fault

/-- Something goes wrong at a part of the description. -/
def Meets (names : Registry) (spec : Value) (options : Entries) (fault : Fault) : Prop :=
  ∃ part given, Reaches spec options part given ∧ Mishap names part given fault

end Shorthand

/-! ### What is reported -/

section Reports

variable {mishap : Fault → Prop}

theorem Arguments.ofEntries_reports {entries : Entries}
    (given : (∃ entry ∈ entries, entry.1 = .text reservedName ∨ entry.1.isText = false) →
      mishap .type) : (Arguments.ofEntries entries).Reports mishap := by
  unfold Arguments.ofEntries
  cases read : Arguments.ofEntries? entries with
  | none => exact .fault (given (ofEntries?_eq_none.mp read))
  | some arguments => exact .pure arguments

theorem ProviderClass.complaint_reports (c : ProviderClass) : (refusal : Refusal) →
    (∀ fault uncaught, refusal = .fault fault uncaught → mishap fault) →
      (throw (c.complaint refusal) : Action α).Reports mishap
  | .type _, _ => .fail _
  | .fault fault uncaught, given => .fault (given fault uncaught rfl)

theorem Value.conform_reports (candidate : Value)
    (broken : ∀ c fault, candidate = .providerClass c → c.Breaks fault → mishap fault) :
    candidate.conform.Reports mishap := by
  unfold Value.conform
  split
  · exact .fail _
  · next conforms =>
      split
      · next c =>
          have able : c.lacks = [] := by simpa [lackedOperations] using conforms
          split
          · next refusal refuses =>
              refine c.complaint_reports refusal (fun fault uncaught same => ?_)
              exact broken c fault rfl ⟨able, uncaught, same ▸ refuses⟩
          · exact fun _ _ failed => nomatch failed
      · exact .pure _

theorem OptionRecord.build_reports (kind : RecordKind) (given : Arguments) :
    (OptionRecord.build kind given).Reports mishap :=
  .bind .nullableAny (fun _ => .accept _ _)

namespace Descriptor

theorem buildPrimitive_reports (kind : Kind) (given : Arguments) :
    (buildPrimitive kind given).Reports mishap := by
  refine .bind (OptionRecord.build_reports _ given) (fun record => ?_)
  cases record.primitive? with
  | none => exact .pure _
  | some options => exact .pure _

theorem buildMapping_reports (fields : List Field) (given : Arguments) :
    (buildMapping fields given).Reports mishap := by
  refine .bind (OptionRecord.build_reports _ given) (fun record => ?_)
  unfold mappingOf
  split
  · exact .pure _
  · exact .fail _

theorem buildArray_reports (element : Descriptor) (given : Arguments) :
    (buildArray element given).Reports mishap := by
  refine .bind (OptionRecord.build_reports _ given) (fun record => ?_)
  cases element.isForeign with
  | false => exact .pure _
  | true => exact .fail _

theorem buildRef_reports (candidate : Value) {options : Entries}
    (broken : ∀ c fault, candidate = .providerClass c → c.Breaks fault → mishap fault)
    (unkept : (entriesListable options && entriesCopyable options) = false → mishap .type) :
    (buildRef candidate options).Reports mishap := by
  have decided := options.snapshot_decided .plain
  rw [Value.listable_map_plain] at decided
  exact .bind (Value.conform_reports candidate broken)
    (fun _ => .bind (.copying decided unkept) (fun _ => .pure _))

end Descriptor

end Reports

namespace Shorthand

variable {names : Registry} {spec : Value} {options : Entries}

theorem Meets.of_mishap {fault : Fault} (mishap : Mishap names spec options fault) :
    Meets names spec options fault :=
  ⟨spec, options, .here spec options, mishap⟩

theorem Meets.of_misused (bare : isLayer spec = false)
    (misused : Misused spec (nodeOptions options)) : Meets names spec options .type :=
  .of_mishap (.misused bare misused)

theorem Meets.of_shown {shown : Value} (shows : Shows spec options shown)
    (endless : shown.hasSource = false) : Meets names spec options .value :=
  .of_mishap (.unwritten shows endless)

theorem fieldOptions_reports (bare : isLayer spec = false) :
    (fieldOptions options).Reports (Meets names spec options) := by
  have optional : (optionalOf options).Reports (Meets names spec options) := by
    unfold optionalOf
    split
    · exact .pure _
    · exact .pure _
    · next given wrong found =>
        exact .failShowing _ (.of_shown (.optional bare found wrong))
  have key : (keyOf options).Reports (Meets names spec options) := by
    unfold keyOf
    split
    · exact .pure _
    · exact .pure _
    · exact .pure _
    · next given notNull notText found =>
        refine .failShowing _ (.of_shown (.key bare found ⟨notNull, ?_⟩))
        cases given with
        | text text => exact absurd rfl (notText text)
        | _ => rfl
  exact .bind optional (fun _ => .bind key (fun _ => .pure _))

theorem fieldOptions_rest (options : Entries) :
    (fieldOptions options).Gives (fun own => own.rest = nodeOptions options) :=
  fieldOptions_yields options

/-- Reading a core goes on with the options that are left to its node. -/
theorem reports_after_fieldOptions (bare : isLayer spec = false)
    {next : FieldOptions → Action α}
    (reports : ∀ own, own.rest = nodeOptions options →
      (next own).Reports (Meets names spec options)) :
    (fieldOptions options >>= next).Reports (Meets names spec options) :=
  .given (fieldOptions_rest options) (fieldOptions_reports bare) reports

theorem attached_reports {node : Descriptor} (checked : node.Checked) :
    (attached node (nodeOptions options)).Reports (Meets names (.descriptor node) options) := by
  unfold attached
  split
  · exact .pure _
  · next filled =>
      refine .bind (Arguments.ofEntries_reports (fun named => ?_)) (fun arguments => ?_)
      · exact .of_misused rfl (.inl ⟨rfl, named⟩)
      cases node with
      | primitive own => exact Descriptor.buildPrimitive_reports _ _
      | mapping fields nullable => exact Descriptor.buildMapping_reports _ _
      | array element own => exact Descriptor.buildArray_reports _ _
      | ref provider own =>
          refine Descriptor.buildRef_reports _ (fun c fault same breaks => ?_) (fun unkept => ?_)
          · subst same
            exact .of_mishap (.broken (.again c own (mt List.isEmpty_iff.mpr filled)) breaks)
          · refine .of_misused rfl (.inr ?_)
            rwa [copied, if_neg filled]
      | foreign value => exact checked.elim

theorem named_reports (registry : Registry) (name : String) :
    (named registry name (nodeOptions options)).Reports
      (Meets registry (.text name) options) := by
  unfold named
  cases kind : Kind.ofName? name with
  | some kind' =>
      have takes : takesArguments (.text name) = true := by rw [takesArguments, kind]; rfl
      refine .bind (Arguments.ofEntries_reports (fun named => ?_))
        (fun _ => Descriptor.buildPrimitive_reports _ _)
      exact .of_misused rfl (.inl ⟨takes, named⟩)
  | none =>
      have takes : takesArguments (.text name) = false := by rw [takesArguments, kind]; rfl
      dsimp only
      split
      · next provider found =>
          refine Descriptor.buildRef_reports _ (fun c fault same breaks => ?_) (fun unkept => ?_)
          · subst same
            exact .of_mishap (.broken (.named options kind found) breaks)
          · refine .of_misused rfl (.inr ?_)
            rwa [copied, if_neg (by simp [takes])]
            simp
      · exact .fail _

/-- Reading a value that is taken for a provider. -/
theorem candidate_reports {candidate : Value} (bare : isLayer candidate = false)
    (copies : copied candidate (nodeOptions options) = nodeOptions options) :
    (do
      let own ← fieldOptions options
      return (⟨← Descriptor.buildRef candidate own.rest, own.optional, own.key⟩ :
        Parsed)).Reports (Meets names candidate options) := by
  refine reports_after_fieldOptions bare (fun own rest => ?_)
  refine .bind (Descriptor.buildRef_reports _ (fun c fault same breaks => ?_) (fun unkept => ?_))
    (fun _ => .pure _)
  · subst same
    exact .of_mishap (.broken (.itself c options) breaks)
  · refine .of_misused bare (.inr ?_)
    rwa [copies, ← rest]

theorem listed_reports {kind : MapKind} {entries : Entries} :
    (listed kind entries).Reports (Meets names (.map kind entries) options) := by
  unfold listed
  split
  · next hidden => exact .fault (.of_mishap (.hidden options hidden))
  · exact .pure ()

theorem listed_congr {kind : MapKind} {entries others : Entries}
    (same : Entries.contains others "items" = Entries.contains entries "items") :
    listed kind others = listed kind entries := by
  rw [listed, Entries.hidden_congr same, listed]

theorem listed_of_open {kind : MapKind} {entries : Entries}
    (lists : Entries.hidden kind entries = false) : listed kind entries = pure () :=
  if_neg (Bool.eq_false_iff.mp lists)

theorem unpaired_reports {items : List Value}
    (wrong : ∀ inner kind layer, items ≠ [inner, .map kind layer]) :
    (Action.failShowing (.tuple items) (.notPair (.tuple items)) : Action Parsed).Reports
      (Meets names (.tuple items) options) :=
  .failShowing _ (.of_shown (.unpaired options wrong))

theorem parseTyped_cons_of_ne (registry : Registry) {key : Value}
    (differs : key ≠ .text typeKey) (spec : Value) (rest options : Entries) :
    parseTyped registry ((key, spec) :: rest) options = parseTyped registry rest options := by
  cases key with
  | text name => rw [parseTyped, if_neg (fun same => differs (congrArg _ same))]
  | _ => rfl

theorem parseTyped_of_get? (registry : Registry) {entries : Entries} {inner : Value}
    (described : Entries.get? entries typeKey = some inner) (options : Entries) :
    parseTyped registry entries options = parse registry inner options := by
  induction entries with
  | nil => exact nomatch described
  | cons entry rest induction =>
      obtain ⟨key, spec⟩ := entry
      by_cases here : key = .text typeKey
      · subst here
        rw [Entries.get?_cons_self] at described
        cases described
        rw [parseTyped, if_pos rfl]
      · rw [Entries.get?_cons_of_ne here] at described
        rw [parseTyped_cons_of_ne registry here, induction described]

mutual
theorem parse_reports (registry : Registry) : (spec : Value) → spec.NodesChecked →
    (options : Entries) → (parse registry spec options).Reports (Meets registry spec options)
  | .tuple [], _, _ => unpaired_reports nofun
  | .tuple [_], _, _ => unpaired_reports nofun
  | .tuple (first :: second :: rest), inside, options => by
      cases second with
      | map kind layer =>
          cases rest with
          | nil =>
              exact (parse_reports registry first inside.2.1 (Entries.merge layer options)).weaken
                (fun _ ⟨part, given, reaches, mishap⟩ => ⟨part, given, .pair reaches, mishap⟩)
          | cons third more => exact unpaired_reports nofun
      | _ => exact unpaired_reports nofun
  | .map kind entries, inside, options => by
      rw [parse]
      split
      · next layered =>
          refine .bind listed_reports (fun _ => ?_)
          refine (parseTyped_reports registry entries inside.2 layered _).weaken ?_
          rintro fault ⟨inner, described, part, given, reaches, mishap⟩
          exact ⟨part, given, .typed described reaches, mishap⟩
      · next plain =>
          have plain : Entries.contains entries typeKey = false := by simpa using plain
          have bare : isLayer (.map kind entries) = false := plain
          refine reports_after_fieldOptions bare (fun own rest => ?_)
          refine .bind listed_reports (fun _ => ?_)
          refine .bind ((parseFields_reports registry entries inside.2).weaken ?_)
            (fun fields => ?_)
          · rintro fault (⟨name, below, among, part, given, reaches, mishap⟩ |
              ⟨rfl, name, part, among, wrong, endless⟩)
            · exact ⟨part, given, .field plain among reaches, mishap⟩
            · exact .of_shown (.name options plain among wrong) endless
          · refine .bind (Arguments.ofEntries_reports (fun named => ?_))
              (fun given => .bind (Descriptor.buildMapping_reports _ _) (fun _ => .pure _))
            exact .of_misused bare (.inl ⟨rfl, rest ▸ named⟩)
  | .list items, inside, options => by
      refine reports_after_fieldOptions rfl (fun own rest => ?_)
      refine .bind ((parseElement_reports registry items inside.2 own.rest).weaken ?_)
        (fun _ => .pure _)
      rintro fault (⟨below, rfl, part, given, reaches, mishap⟩ | ⟨rfl, named⟩)
      · exact ⟨part, given, .element reaches, mishap⟩
      · exact .of_misused rfl (.inl ⟨rfl, rest ▸ named⟩)
  | .descriptor node, inside, options => by
      refine reports_after_fieldOptions rfl (fun own rest => .bind ?_ (fun _ => .pure _))
      rw [rest]
      exact attached_reports inside
  | .text name, _, options => by
      refine reports_after_fieldOptions rfl (fun own rest => .bind ?_ (fun _ => .pure _))
      rw [rest]
      exact named_reports registry name
  | .number value, _, options =>
      reports_after_fieldOptions rfl
        (fun _ _ => .failShowing _ (.of_shown (.number value options)))
  | .null, _, options | .bool _, _, options | .bytes false _, _, options =>
      .bind (fieldOptions_reports rfl) (fun _ => .failShowing _ nofun)
  | .bytes true _, _, options | .set _ _, _, options | .date _ _ _, _, options
  | .moment _, _, options | .providerClass _, _, options | .provider _ _, _, options
  | .field _, _, options | .options _, _, options | .other _, _, options =>
      candidate_reports rfl rfl
termination_by structural spec => spec

theorem parseTyped_reports (registry : Registry) : (entries : List (Value × Value)) →
    entriesEvery Value.NodesCheckedHere entries → Entries.contains entries typeKey = true →
      (options : Entries) → (parseTyped registry entries options).Reports (fun fault =>
        ∃ inner, Entries.get? entries typeKey = some inner ∧ Meets registry inner options fault)
  | (key, spec) :: rest, inside, layered, options => by
      by_cases described : key = .text typeKey
      · subst described
        have found := Entries.get?_cons_self typeKey spec rest
        rw [parseTyped, if_pos rfl]
        exact (parse_reports registry spec inside.1 options).weaken
          (fun _ meets => ⟨spec, found, meets⟩)
      · have found := Entries.get?_cons_of_ne described spec rest
        rw [Entries.contains, found] at layered
        rw [parseTyped_cons_of_ne registry described, found]
        exact parseTyped_reports registry rest inside.2 layered options
termination_by structural entries => entries

theorem parseElement_reports (registry : Registry) : (items : List Value) →
    itemsEvery Value.NodesCheckedHere items → (options : Entries) →
      (parseElement registry items options).Reports (fun fault =>
        (∃ below, items = [below] ∧ Meets registry below [] fault) ∨
          (fault = .type ∧ ∃ entry ∈ options,
            entry.1 = .text Arguments.reservedName ∨ entry.1.isText = false))
  | [], _, _ => .fail _
  | [element], inside, options => by
      refine .bind ((parse_reports registry element inside.1 []).weaken ?_) (fun parsed => ?_)
      · exact fun _ meets => .inl ⟨element, rfl, meets⟩
      · exact .bind (Arguments.ofEntries_reports (fun named => .inr ⟨rfl, named⟩))
          (fun _ => Descriptor.buildArray_reports _ _)
  | _ :: _ :: _, _, _ => .fail _
termination_by structural items => items

theorem parseFields_reports (registry : Registry) : (entries : List (Value × Value)) →
    entriesEvery Value.NodesCheckedHere entries →
      (parseFields registry entries).Reports (fun fault =>
      (∃ name below, (.text name, below) ∈ entries ∧ Meets registry below [] fault) ∨
        (fault = .value ∧ ∃ name part, (name, part) ∈ entries ∧ name.isText = false ∧
          name.hasSource = false))
  | [], _ => .pure _
  | (key, spec) :: rest, inside => by
      have tail := parseFields_reports registry rest inside.2
      cases key with
      | text name =>
          refine .bind ((parse_reports registry spec inside.1 []).weaken ?_) (fun parsed => ?_)
          · exact fun _ meets => .inl ⟨name, spec, .head _, meets⟩
          · refine .bind (tail.weaken ?_) (fun _ => .pure _)
            rintro fault (⟨name, part, among, meets⟩ | ⟨rfl, name, part, among, wrong⟩)
            · exact .inl ⟨name, part, .tail _ among, meets⟩
            · exact .inr ⟨rfl, name, part, .tail _ among, wrong⟩
      | _ => exact .failShowing _ (fun endless => .inr ⟨rfl, _, spec, .head _, rfl, endless⟩)
termination_by structural entries => entries
end

end Shorthand

end RecordSchema
