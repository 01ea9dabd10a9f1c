import RecordSchema.Proofs.Descriptor.Reporting

namespace RecordSchema

/-! Descriptions of which no node is made: those with options that a core of them cannot take. -/

/-- The action makes nothing: it fails in every session. -/
abbrev Action.Refuses (action : Action α) : Prop :=
  action.Gives (fun _ => False)

theorem Action.Refuses.bind {action : Action α} (refuses : action.Refuses)
    (next : α → Action β) : (action >>= next).Refuses :=
  Action.Yields.bind refuses (fun _ none => none.elim)

theorem Action.copying_refuses {step : Copying α} (decided : step.Decided false) :
    (copying step).Refuses where
  keeps _ _ := trivial
  gives session value _ given := by
    have result := decided session.instances
    rw [outcome_copying] at given
    cases run : (step.run.run session.instances).1 with
    | ok value =>
        rw [run] at result
        exact Bool.false_ne_true result
    | error fault =>
        rw [run] at given
        exact nomatch given

theorem Action.failShowing_refuses (shown : Value) (cause : DefinitionError) :
    (failShowing shown cause : Action α).Refuses :=
  .throw _ _

theorem OptionRecord.build_refuses {kind : RecordKind} {given : Arguments} {name : String}
    (named : name ∈ given.map Prod.fst) (foreign : name ∉ kind.declared) :
    (OptionRecord.build kind given).Refuses := by
  refine .after (fun policy => ?_)
  obtain ⟨complaints, refused⟩ :
      ∃ complaints, OptionRecord.read policy kind given = .refused complaints :=
    read_undeclared named foreign
  rw [refused]
  exact .fail _ _

theorem Descriptor.buildRef_refuses (candidate : Value) {options : Entries}
    (unkept : (entriesListable options && entriesCopyable options) = false) :
    (buildRef candidate options).Refuses := by
  have decided := options.snapshot_decided .plain
  rw [Value.listable_map_plain, unkept] at decided
  exact .after (fun _ => (Action.copying_refuses decided).bind _)

namespace Shorthand

/-- Options that a core cannot take. -/
def Unfit (core : Value) (given : Entries) : Prop :=
  Misused core given ∨ Undeclared core given

/-- Unfit options of a core with a record are no arguments, or name what the record does not
declare. -/
theorem Unfit.arguments {core : Value} {given : Entries} {kind : RecordKind}
    (unfit : Unfit core given) (record : recordKind? core = some kind)
    (copies : copied core given = []) {arguments : Arguments}
    (read : Arguments.ofEntries? given = some arguments) :
    ∃ name ∈ arguments.map Prod.fst, name ∉ kind.declared := by
  rcases unfit with (⟨-, misnamed⟩ | unkept) | ⟨kind', record', entry, among, foreign⟩
  · rw [← Arguments.ofEntries?_eq_none, read] at misnamed
    exact nomatch misnamed
  · rw [copies] at unkept
    exact absurd unkept.symm Bool.false_ne_true
  · obtain rfl : kind = kind' := Option.some.inj (record.symm.trans record')
    rw [Arguments.ofEntries?_eq_some read] at among
    obtain ⟨argument, held, rfl⟩ := List.mem_map.mp among
    exact ⟨argument.1, List.mem_map_of_mem held, fun declared => foreign _ declared rfl⟩

theorem arguments_refuse {core : Value} {given : Entries} {kind : RecordKind}
    {build : Arguments → Action α} (unfit : Unfit core given)
    (record : recordKind? core = some kind) (copies : copied core given = [])
    (builds : ∀ {arguments : Arguments} {name : String}, name ∈ arguments.map Prod.fst →
      name ∉ kind.declared → (build arguments).Refuses) :
    (Arguments.ofEntries given >>= build).Refuses := by
  unfold Arguments.ofEntries
  cases read : Arguments.ofEntries? given with
  | none => exact Action.Refuses.bind (.fault _ _) _
  | some arguments =>
      obtain ⟨name, named, foreign⟩ := unfit.arguments record copies read
      exact builds named foreign

theorem misnamed_refuses {given : Entries} {build : Arguments → Action α}
    (misnamed : ∃ entry ∈ given,
      entry.1 = .text Arguments.reservedName ∨ entry.1.isText = false) :
    (Arguments.ofEntries given >>= build).Refuses := by
  unfold Arguments.ofEntries
  rw [Arguments.ofEntries?_eq_none.mpr misnamed]
  exact Action.Refuses.bind (.fault _ _) _

theorem attached_refuses {node : Descriptor} {given : Entries}
    (unfit : Unfit (.descriptor node) given) : (attached node given).Refuses := by
  have filled : ¬ given.isEmpty = true := by
    intro empty
    rw [List.isEmpty_iff] at empty
    subst empty
    have copies : copied (.descriptor node) [] = [] := by cases node <;> rfl
    rcases unfit with (⟨-, _, among, -⟩ | unkept) | ⟨_, _, _, among, -⟩
    · exact List.not_mem_nil among
    · rw [copies] at unkept
      exact Bool.false_ne_true unkept.symm
    · exact List.not_mem_nil among
  unfold attached
  rw [if_neg filled]
  cases node with
  | primitive own =>
      refine arguments_refuse unfit rfl rfl (fun named foreign => ?_)
      exact (OptionRecord.build_refuses (Arguments.mem_names_merge.mpr (.inl named)) foreign).bind _
  | mapping fields nullable =>
      refine arguments_refuse unfit rfl rfl (fun named foreign => ?_)
      exact (OptionRecord.build_refuses (Arguments.mem_names_merge.mpr (.inl named)) foreign).bind _
  | array element own =>
      refine arguments_refuse unfit rfl rfl (fun named foreign => ?_)
      exact (OptionRecord.build_refuses (Arguments.mem_names_merge.mpr (.inl named)) foreign).bind _
  | ref provider own =>
      rcases unfit with (⟨-, misnamed⟩ | unkept) | ⟨kind, record, -⟩
      · exact misnamed_refuses misnamed
      · rw [copied, if_neg filled] at unkept
        exact .after (fun _ => Descriptor.buildRef_refuses provider unkept)
      · cases record
  | foreign value => exact .after (fun _ => .fault _ _)

theorem named_refuses (registry : Registry) (name : String) {given : Entries}
    (unfit : Unfit (.text name) given) : (named registry name given).Refuses := by
  unfold named
  cases kind : Kind.ofName? name with
  | some kind' =>
      have record : recordKind? (.text name) = some (.primitive kind') := by
        rw [recordKind?, kind]
        rfl
      have copies : copied (.text name) given = [] := by simp [copied, takesArguments, kind]
      refine arguments_refuse unfit record copies (fun named foreign => ?_)
      exact (OptionRecord.build_refuses named foreign).bind _
  | none =>
      have copies : copied (.text name) given = given := by simp [copied, takesArguments, kind]
      dsimp only
      split
      · rcases unfit with (⟨takes, -⟩ | unkept) | ⟨kind', record, -⟩
        · simp [takesArguments, kind] at takes
        · rw [copies] at unkept
          exact Descriptor.buildRef_refuses _ unkept
        · simp [recordKind?, kind] at record
      · exact .fail _ _

theorem refuses_after_fieldOptions {options : Entries} {next : FieldOptions → Action α}
    (refuses : ∀ own, own.rest = nodeOptions options → (next own).Refuses) :
    (fieldOptions options >>= next).Refuses :=
  Action.Yields.bind (fieldOptions_rest options) refuses

theorem Unfit.unkept {core : Value} {given : Entries} (unfit : Unfit core given)
    (takes : takesArguments core = false) (record : recordKind? core = none)
    (copies : copied core given = given) :
    (entriesListable given && entriesCopyable given) = false := by
  rcases unfit with (⟨takes', -⟩ | unkept) | ⟨kind, record', -⟩
  · rw [takes] at takes'
    exact absurd takes' Bool.false_ne_true
  · rwa [copies] at unkept
  · rw [record] at record'
    exact nomatch record'

theorem candidate_refuses {candidate : Value} {options : Entries}
    (unfit : Unfit candidate (nodeOptions options)) (takes : takesArguments candidate = false)
    (record : recordKind? candidate = none)
    (copies : copied candidate (nodeOptions options) = nodeOptions options) :
    (do
      let own ← fieldOptions options
      return (⟨← Descriptor.buildRef candidate own.rest, own.optional, own.key⟩ :
        Parsed)).Refuses := by
  refine refuses_after_fieldOptions (fun own rest => Action.Refuses.bind ?_ _)
  rw [rest]
  exact Descriptor.buildRef_refuses candidate (unfit.unkept takes record copies)

/-- A core with unfit options is not read, whatever its parts are. -/
theorem parse_core_refuses (registry : Registry) (core : Value) (options : Entries)
    (bare : isLayer core = false) (unfit : Unfit core (nodeOptions options)) :
    (parse registry core options).Refuses := by
  cases core with
  | tuple items => exact nomatch bare
  | map kind entries =>
      have plain : ¬ Entries.contains entries typeKey = true := by simpa [isLayer] using bare
      rw [parse, if_neg plain]
      refine refuses_after_fieldOptions
        (fun own rest => .after (fun _ => .after (fun fields => ?_)))
      rw [rest]
      refine arguments_refuse unfit rfl rfl (fun named foreign => ?_)
      exact ((OptionRecord.build_refuses named foreign).bind _).bind _
  | list items =>
      refine refuses_after_fieldOptions (fun own rest => Action.Refuses.bind ?_ _)
      rw [rest]
      cases items with
      | nil => exact .fail _ _
      | cons part others =>
          cases others with
          | nil =>
              refine .after (fun parsed => arguments_refuse unfit rfl rfl (fun named foreign => ?_))
              exact (OptionRecord.build_refuses named foreign).bind _
          | cons second more => exact .fail _ _
  | descriptor node =>
      refine refuses_after_fieldOptions (fun own rest => Action.Refuses.bind ?_ _)
      exact attached_refuses (rest ▸ unfit)
  | text name =>
      refine refuses_after_fieldOptions (fun own rest => Action.Refuses.bind ?_ _)
      exact named_refuses registry name (rest ▸ unfit)
  | null | bool value | number value => exact .after (fun _ => Action.failShowing_refuses _ _)
  | bytes mutable data =>
      cases mutable with
      | false => exact .after (fun _ => Action.failShowing_refuses _ _)
      | true => exact candidate_refuses unfit rfl rfl rfl
  | _ => exact candidate_refuses unfit rfl rfl rfl

theorem parseFields_refuses (registry : Registry) {entries : Entries} {name : String}
    {part : Value} (among : (.text name, part) ∈ entries)
    (refuses : (parse registry part []).Refuses) : (parseFields registry entries).Refuses := by
  induction entries with
  | nil => exact absurd among List.not_mem_nil
  | cons entry rest induction =>
      obtain ⟨key, spec⟩ := entry
      cases key with
      | text first =>
          rcases List.mem_cons.mp among with same | later
          · cases same
            exact refuses.bind _
          · exact .after (fun parsed => (induction later).bind _)
      | _ => exact Action.failShowing_refuses _ _

/-- A description is not read where one of its parts is not. -/
theorem Reaches.refuses (registry : Registry) {spec part : Value} {options given : Entries}
    (reaches : Reaches spec options part given) (refuses : (parse registry part given).Refuses) :
    (parse registry spec options).Refuses := by
  induction reaches with
  | here spec options => exact refuses
  | pair _ inside => exact inside refuses
  | @typed inner _ kind entries options _ described _ inside =>
      have layered : Entries.contains entries typeKey = true :=
        (Entries.contains_iff _ _).mpr ⟨inner, described⟩
      rw [parse, if_pos layered, parseTyped_of_get? registry described]
      exact .after (fun _ => inside refuses)
  | @field part _ name kind entries options _ plain among _ inside =>
      rw [parse, if_neg (Bool.eq_false_iff.mp plain)]
      refine .after (fun own => .after (fun _ => ?_))
      exact (parseFields_refuses registry among (inside refuses)).bind _
  | element _ inside => exact .after (fun own => ((inside refuses).bind _).bind _)

theorem Bears.refuses (registry : Registry) {spec core : Value} {options given : Entries}
    (bears : Bears spec options core given)
    (refuses : ∀ laid, isLayer core = false → nodeOptions laid = given →
      (parse registry core laid).Refuses) :
    (parse registry spec options).Refuses := by
  obtain ⟨bare, laid, reaches, same⟩ := bears
  exact reaches.refuses registry (refuses laid bare same)

theorem parse_refuses (registry : Registry) {spec core : Value} {options given : Entries}
    (bears : Bears spec options core given) (unfit : Unfit core given) :
    (parse registry spec options).Refuses :=
  bears.refuses registry (fun laid bare same =>
    parse_core_refuses registry core laid bare (same ▸ unfit))

end Shorthand

/-- Reading a description makes a node, reports an error of the description, or comes to a part
of it where something goes wrong.  It makes no node where the options of a core are misused or
are not declared by its kind. -/
theorem Value.parse_reports_malformed {spec : Value} (checked : spec.NodesChecked)
    (options : Entries) (registry : Option Registry) (session : Session) :
    let names := Registry.orElse registry session.registry
    let outcome := (spec.parse options registry).outcome session
    ((∃ node, outcome = .ok node) ∨ (∃ cause, outcome = .error (.definition cause)) ∨
        ∃ fault, outcome = .error (.fault fault) ∧ Shorthand.Meets names spec options fault) ∧
      ∀ core given, Shorthand.Bears spec options core given →
        (Shorthand.Misused core given ∨ Shorthand.Undeclared core given) →
          ∀ node, outcome ≠ .ok node := by
  intro names outcome
  constructor
  · have started : outcome = (do
        return (← Shorthand.parse names spec options).descriptor : Action Descriptor).outcome
          session :=
      Action.outcome_bind_of_ok Action.outcome_get
    have reports : (do return (← Shorthand.parse names spec options).descriptor :
        Action Descriptor).Reports (Shorthand.Meets names spec options) :=
      .bind (Shorthand.parse_reports names spec checked options) (fun _ => .pure _)
    cases result : outcome with
    | ok node => exact .inl ⟨node, rfl⟩
    | error error =>
        rcases reports session error (started ▸ result) with ⟨cause, rfl⟩ | ⟨fault, rfl, meets⟩
        · exact .inr (.inl ⟨cause, rfl⟩)
        · exact .inr (.inr ⟨fault, rfl, meets⟩)
  · intro core given bears unfit node made
    have refuses : (spec.parse options registry).Refuses :=
      .after (fun _ => (Shorthand.parse_refuses _ bears unfit).bind _)
    exact refuses.gives session node trivial made

theorem Value.parse_reports_malformed_of_undeclared_limit :
    let core : Value := .text "integer"
    let layer : Entries := [(.text "limit", .int 1)]
    let spec : Value := .map .plain [(.text "a", .list [.tuple [core, .map .plain layer]])]
    spec.NodesChecked ∧ Shorthand.Bears spec [] core layer ∧ Shorthand.Undeclared core layer ∧
      ∀ node, (spec.parse [] none).outcome {} ≠ .ok node := by
  intro core layer spec
  have checked : spec.NodesChecked :=
    ⟨trivial, ⟨trivial, ⟨trivial, trivial, ⟨trivial, trivial, trivial⟩, trivial⟩, trivial⟩, trivial⟩
  have bears : Shorthand.Bears spec [] core layer :=
    .field rfl (.head _) (.element (.pair (.core layer rfl)))
  have undeclared : Shorthand.Undeclared core layer :=
    ⟨.primitive .integer, rfl, _, .head _, by simp [RecordKind.declared]⟩
  exact ⟨checked, bears, undeclared,
    (parse_reports_malformed checked [] none {}).2 core layer bears (.inr undeclared)⟩

/-- A reserved option name, a name that is no text, a reference among provider options, a number
that is too long to be written and a provider that cannot be made are not reported. -/
theorem Value.parse_leaves_unreported :
    let c : ProviderClass := { key := "Spec", typeName := "Spec" }
    let broken : ProviderClass :=
      { key := "Broken", typeName := "Broken", refusal := some (.fault .recursion rfl) }
    let reference : Value := .descriptor (.ref (.provider c 0) [])
    let unreported (spec : Value) : Prop :=
      spec.NodesChecked ∧ ¬ ((∃ node, (spec.parse [] none).outcome {} = .ok node) ∨
        ∃ cause, (spec.parse [] none).outcome {} = .error (.definition cause))
    unreported (.tuple [.text "integer", .map .plain [(.text "self", .int 1)]]) ∧
      unreported (.tuple [.text "integer", .map .plain [(.int 1, .int 1)]]) ∧
        unreported (.tuple [.providerClass c, .map .plain [(.text "x", reference)]]) ∧
          unreported (.int digitLimit) ∧ unreported (.providerClass broken) := by
  intro c broken reference unreported
  have of_fault {spec : Value} {fault : Fault} (checked : spec.NodesChecked)
      (failed : (spec.parse [] none).outcome {} = .error (.fault fault)) : unreported spec := by
    refine ⟨checked, ?_⟩
    rw [failed]
    rintro (⟨node, made⟩ | ⟨cause, reported⟩)
    · exact nomatch made
    · exact nomatch reported
  have paired {core key value : Value} (first : core.NodesChecked) (second : value.NodesChecked) :
      (Value.tuple [core, .map .plain [(key, value)]]).NodesChecked :=
    ⟨trivial, first, ⟨trivial, second, trivial⟩, trivial⟩
  have endless : (Value.int digitLimit).hasSource = false :=
    decide_eq_false (Nat.lt_irrefl digitLimit)
  have unwritten : ((Value.int digitLimit).parse [] none).outcome {} = .error (.fault .value) := by
    change Except.error (Error.showing (.int digitLimit) _) = _
    rw [Error.showing, endless]
    rfl
  exact ⟨of_fault (paired trivial trivial) rfl, of_fault (paired trivial trivial) rfl,
    of_fault (paired trivial trivial) rfl, of_fault trivial unwritten, of_fault trivial rfl⟩

end RecordSchema
