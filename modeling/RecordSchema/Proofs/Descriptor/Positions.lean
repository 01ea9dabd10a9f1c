import RecordSchema.Proofs.Descriptor.Refusal
import RecordSchema.Proofs.Provider.Registry
import RecordSchema.Proofs.Session.Growing

namespace RecordSchema

/-! Where the cores of a description stand in the node that is made of it, and the references
that stand there. -/

/-! ### Places -/

namespace Descriptor

/-- A step into a node. -/
inductive Turn where
  | field (position : Nat)
  | element

def reach? : Descriptor → List Turn → Option Descriptor
  | node, [] => some node
  | .mapping fields _, .field position :: rest =>
      fields[position]?.bind (fun field => field.descriptor.reach? rest)
  | .array element _, .element :: rest => element.reach? rest
  | _, _ => none
termination_by structural _ path => path

theorem reach?_field {fields : List Field} {position : Nat} {field : Field}
    (stands : fields[position]? = some field) (nullable : Bool) (rest : List Turn) :
    (mapping fields nullable).reach? (.field position :: rest) = field.descriptor.reach? rest := by
  rw [reach?, stands, Option.bind_some]

end Descriptor

namespace Shorthand

/-- With the options laid over it, the description bears the core with the options given, and
its node has the core's node at the place. -/
inductive BearsAt : Value → Entries → List Descriptor.Turn → Value → Entries → Prop where
  | core {spec : Value} (options : Entries) (bare : isLayer spec = false) :
      BearsAt spec options [] spec (nodeOptions options)
  | pair {inner core : Value} {kind : MapKind} {layer options given : Entries}
      {path : List Descriptor.Turn}
      (inside : BearsAt inner (Entries.merge layer options) path core given) :
      BearsAt (.tuple [inner, .map kind layer]) options path core given
  | typed {inner core : Value} {kind : MapKind} {entries options given : Entries}
      {path : List Descriptor.Turn} (described : Entries.get? entries typeKey = some inner)
      (inside : BearsAt inner (Entries.merge (Entries.erase entries typeKey) options) path core
        given) :
      BearsAt (.map kind entries) options path core given
  | field {part core : Value} {name : String} {kind : MapKind} {entries options given : Entries}
      {path : List Descriptor.Turn} {position : Nat}
      (plain : Entries.contains entries typeKey = false)
      (stands : entries[position]? = some (.text name, part))
      (inside : BearsAt part [] path core given) :
      BearsAt (.map kind entries) options (.field position :: path) core given
  | element {part core : Value} {options given : Entries} {path : List Descriptor.Turn}
      (inside : BearsAt part [] path core given) :
      BearsAt (.list [part]) options (.element :: path) core given

theorem BearsAt.bears {spec core : Value} {options given : Entries} {path : List Descriptor.Turn}
    (bears : BearsAt spec options path core given) : Bears spec options core given := by
  induction bears with
  | core options bare => exact .core options bare
  | pair _ inside => exact .pair inside
  | typed described _ inside => exact .typed described inside
  | field plain stands _ inside => exact .field plain (List.mem_of_getElem? stands) inside
  | element _ inside => exact .element inside

end Shorthand

/-! ### Reading a description at a place -/

/-- The action gave the result in a session, and left objects of which the later ones have
grown. -/
def Action.LedTo (action : Action α) (result : α) (later : Instances) : Prop :=
  ∃ session, action.outcome session = .ok result ∧ (action.after session).instances.Grows later

theorem Action.LedTo.of_bind {action : Action α} {next : α → Action β} {result : β}
    {later : Instances} (led : (action >>= next).LedTo result later)
    (grows : ∀ value, Discipline.growing.holds (next value)) :
    ∃ value, action.LedTo value later ∧ (next value).LedTo result later := by
  obtain ⟨session, done, grown⟩ := led
  obtain ⟨value, given, last⟩ := outcome_bind_eq_ok.mp done
  rw [after_bind_of_ok given] at grown
  exact ⟨value, ⟨session, given, (grows value _).1.trans grown⟩, _, last, grown⟩

theorem Action.LedTo.pure {value result : α} {later : Instances}
    (led : (pure value : Action α).LedTo result later) : result = value := by
  obtain ⟨session, given, -⟩ := led
  cases given
  rfl

theorem Action.LedTo.gives {action : Action α} {result : α} {later : Instances} {sort : α → Prop}
    (led : action.LedTo result later) (gives : action.Gives sort) : sort result := by
  obtain ⟨session, given, -⟩ := led
  exact gives.gives session result trivial given

namespace Descriptor

theorem buildMapping_gives (fields : List Field) (given : Arguments) :
    (buildMapping fields given).Gives
      (fun node => ∃ nullable, node = .mapping fields nullable) := by
  refine .after (fun record => ?_)
  unfold mappingOf
  split
  · exact .pure ⟨_, rfl⟩
  · exact .fail _ _

theorem buildArray_gives (element : Descriptor) (given : Arguments) :
    (buildArray element given).Gives (fun node => ∃ options, node = .array element options) := by
  refine .after (fun record => ?_)
  cases element.isForeign with
  | true => exact .fail _ _
  | false => exact .pure ⟨_, rfl⟩

end Descriptor

namespace Shorthand

variable {registry : Registry} {later : Instances}

theorem parseFields_led {entries : Entries} {fields : List Field} {position : Nat}
    {name : String} {part : Value} (led : (parseFields registry entries).LedTo fields later)
    (stands : entries[position]? = some (.text name, part)) :
    ∃ field parsed, fields[position]? = some field ∧ field.descriptor = parsed.descriptor ∧
      (parse registry part []).LedTo parsed later := by
  induction entries generalizing fields position with
  | nil => exact nomatch stands
  | cons entry rest induction =>
      obtain ⟨key, spec⟩ := entry
      cases key with
      | text first =>
          obtain ⟨parsed, here, after⟩ := led.of_bind (fun parsed =>
            Discipline.growing.bind (Discipline.growing.reading.shorthandFields registry rest)
              (fun _ => Discipline.growing.value _))
          obtain ⟨others, inside, last⟩ := after.of_bind (fun _ => Discipline.growing.value _)
          cases last.pure
          cases position with
          | zero =>
              cases stands
              exact ⟨_, parsed, rfl, rfl, here⟩
          | succ position =>
              obtain ⟨field, read, found, same, there⟩ := induction inside stands
              exact ⟨field, read, found, same, there⟩
      | _ =>
          obtain ⟨session, given, -⟩ := led
          exact nomatch given

/-- The node of a core stands in the node of the description, where the core stands in it. -/
theorem BearsAt.read {spec core : Value} {options given : Entries} {path : List Descriptor.Turn}
    (bears : BearsAt spec options path core given) {parsed : Parsed}
    (led : (parse registry spec options).LedTo parsed later) :
    ∃ own inner, isLayer core = false ∧ nodeOptions own = given ∧
      (parse registry core own).LedTo inner later ∧
        parsed.descriptor.reach? path = some inner.descriptor := by
  induction bears generalizing parsed with
  | core options bare => exact ⟨options, parsed, bare, rfl, led, rfl⟩
  | pair _ inside => exact inside led
  | @typed inner _ kind entries options _ _ described _ inside =>
      have layered : Entries.contains entries typeKey = true :=
        (Entries.contains_iff _ _).mpr ⟨inner, described⟩
      rw [parse, if_pos layered, parseTyped_of_get? registry described] at led
      obtain ⟨-, -, led⟩ :=
        led.of_bind (fun _ => Discipline.growing.reading.shorthand registry inner _)
      exact inside led
  | @field part _ name kind entries options _ _ position plain stands _ inside =>
      rw [parse, if_neg (Bool.eq_false_iff.mp plain)] at led
      have builds (fields : List Field) (own : FieldOptions) : Discipline.growing.holds (do
          let node ← Descriptor.buildMapping fields (← Arguments.ofEntries own.rest)
          return (⟨node, own.optional, own.key⟩ : Parsed)) :=
        Discipline.growing.bind (Discipline.growing.reading.ofEntries _) (fun _ =>
          Discipline.growing.bind (Discipline.growing.reading.buildMapping _ _)
            (fun _ => Discipline.growing.value _))
      have reads (own : FieldOptions) :=
        Discipline.growing.bind (Discipline.growing.reading.shorthandFields registry entries)
          (fun fields => builds fields own)
      obtain ⟨own, -, led⟩ := led.of_bind (fun own =>
        Discipline.growing.bind (Discipline.growing.reading.listed kind entries)
          (fun _ => reads own))
      obtain ⟨-, -, led⟩ := led.of_bind (fun _ => reads own)
      obtain ⟨fields, read, led⟩ := led.of_bind (fun fields => builds fields own)
      obtain ⟨arguments, -, led⟩ := led.of_bind (fun _ =>
        Discipline.growing.bind (Discipline.growing.reading.buildMapping _ _)
          (fun _ => Discipline.growing.value _))
      obtain ⟨node, built, led⟩ := led.of_bind (fun _ => Discipline.growing.value _)
      cases led.pure
      obtain ⟨nullable, rfl⟩ := built.gives (Descriptor.buildMapping_gives fields arguments)
      obtain ⟨field, parsed, found, same, there⟩ := parseFields_led read stands
      obtain ⟨own, inner, bare, given, core, place⟩ := inside there
      refine ⟨own, inner, bare, given, core, ?_⟩
      rw [Descriptor.reach?_field found, same, place]
  | @element part core options given path _ inside =>
      rw [parse] at led
      obtain ⟨own, -, led⟩ := led.of_bind (fun own =>
        Discipline.growing.bind
          (Discipline.growing.reading.shorthandElement registry [part] own.rest)
          (fun _ => Discipline.growing.value _))
      obtain ⟨node, read, led⟩ := led.of_bind (fun _ => Discipline.growing.value _)
      cases led.pure
      rw [parseElement] at read
      obtain ⟨parsed, there, led⟩ := read.of_bind (fun _ =>
        Discipline.growing.bind (Discipline.growing.reading.ofEntries _) (fun _ =>
          Discipline.growing.reading.buildArray _ _))
      obtain ⟨arguments, -, built⟩ :=
        led.of_bind (fun _ => Discipline.growing.reading.buildArray _ _)
      obtain ⟨options, rfl⟩ := built.gives (Descriptor.buildArray_gives parsed.descriptor arguments)
      exact inside there

/-- What a core refers to: itself, or what the registry has under its name. -/
inductive Designates (registry : Registry) : Value → Value → Prop where
  | shared (c : ProviderClass) : Designates registry (.providerClass c) (.providerClass c)
  | named {name : String} {provider : Value} (free : Kind.ofName? name = none)
      (registered : registry.get? name = some provider) :
      Designates registry (.text name) provider

theorem Designates.isLayer {core candidate : Value}
    (designates : Designates registry core candidate) : isLayer core = false := by
  cases designates <;> rfl

theorem Designates.parse {core candidate : Value}
    (designates : Designates registry core candidate) (options : Entries) :
    Shorthand.parse registry core options = (do
      let own ← fieldOptions options
      return ⟨← Descriptor.buildRef candidate own.rest, own.optional, own.key⟩) := by
  cases designates with
  | shared c => rfl
  | named free registered =>
      rw [Shorthand.parse]
      simp only [Shorthand.named, free, registered]

end Shorthand

/-- A reference holds the provider that serves the candidate, and a snapshot of its options. -/
theorem Descriptor.buildRef_led {candidate : Value} {options : Entries} {node : Descriptor}
    {later : Instances} (led : (buildRef candidate options).LedTo node later) :
    ∃ used own, node = .ref used own ∧ candidate.ServedBy later used ∧
      (options.Hold Value.Plain → own = freezeEntries options) := by
  obtain ⟨used, ⟨session, given, grown⟩, led⟩ := led.of_bind (fun _ =>
    Discipline.growing.bind (Discipline.growing.copying (options.snapshot_allocates _))
      (fun _ => Discipline.growing.value _))
  obtain ⟨own, ⟨_, copied, -⟩, led⟩ := led.of_bind (fun _ => Discipline.growing.value _)
  refine ⟨used, own, led.pure, ?_, fun plain => ?_⟩
  · by_cases conforms : candidate.Conforms
    · obtain ⟨other, also, served, -⟩ := conforms.served session
      cases given.symm.trans also
      exact served.grow grown
    · obtain ⟨cause, refuses⟩ := Value.refused_of_not_conforms conforms
      rw [refuses] at given
      exact nomatch given
  · rw [Entries.snapshot_of_plain plain] at copied
    cases copied
    rfl

/-- Where a core designates a provider, the node that is made of the description refers to what
serves it, with a snapshot of the options that the core is given. -/
theorem Shorthand.BearsAt.refers {registry : Registry} {spec core candidate : Value}
    {options given : Entries} {path : List Descriptor.Turn} {parsed : Parsed} {later : Instances}
    (bears : BearsAt spec options path core given)
    (designates : Designates registry core candidate)
    (led : (parse registry spec options).LedTo parsed later) :
    ∃ used own, parsed.descriptor.reach? path = some (.ref used own) ∧
      candidate.ServedBy later used ∧ (given.Hold Value.Plain → own = freezeEntries given) := by
  obtain ⟨mine, inner, -, rest, core, place⟩ := bears.read led
  rw [designates.parse] at core
  obtain ⟨own, split, led⟩ := core.of_bind (fun own =>
    Discipline.growing.bind (Discipline.growing.reading.buildRef candidate own.rest)
      (fun _ => Discipline.growing.value _))
  obtain ⟨node, built, led⟩ := led.of_bind (fun _ => Discipline.growing.value _)
  cases led.pure
  obtain ⟨used, kept, rfl, served, frozen⟩ := Descriptor.buildRef_led built
  refine ⟨used, kept, place, served, fun plain => ?_⟩
  have same : own.rest = given := (split.gives (fieldOptions_rest mine)).trans rest
  rw [← same] at plain ⊢
  exact frozen plain

end RecordSchema
