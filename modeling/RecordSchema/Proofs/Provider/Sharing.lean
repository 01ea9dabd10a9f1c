import RecordSchema.Proofs.Descriptor.Positions
import RecordSchema.Proofs.Provider.Json
import RecordSchema.Proofs.Provider.Registrations

namespace RecordSchema

/-! One object for each class.  Whichever way a class is referred to in a run, the references hold
the object that the class shares, and no other object is ever equal to it. -/

/-! ### Ways to refer to a class -/

/-- The core is the class, or a name for which it is held. -/
inductive ProviderClass.Meant (c : ProviderClass) (held : String → Value → Prop) :
    Value → Prop where
  | itself : Meant c held (.providerClass c)
  | named {name : String} (free : Kind.ofName? name = none)
      (registered : held name (.providerClass c)) : Meant c held (.text name)

/-- Which registry is consulted where one is given: that one, unless it is empty. -/
def World.consulted (world : World) : Option Nat → Option Nat
  | none => none
  | some which => if (world.registries which).isEmpty then none else some which

theorem World.registry_consulted (world : World) (which : Option Nat) :
    world.registry (world.consulted which) =
      Registry.orElse (which.map world.registries) world.session.registry := by
  cases which with
  | none => rfl
  | some which =>
      simp only [consulted, Option.map_some, Registry.orElse]
      split <;> rfl

/-- The options that a reference is built with, if they can be read. -/
def Blueprint.referenceOptions? (given : Arguments) : Option Entries :=
  match given.get? "options" with
  | none => some []
  | some .null => some []
  | some (.map kind entries) => if (Value.map kind entries).listable then some entries else none
  | some _ => none

def Answer.node? : Answer → Option Descriptor
  | .node made => some made
  | .value (.descriptor made) => some made
  | _ => none

/-- The command makes a reference by means of the class, at a place of the node that it answers
and with the options given: by the class itself or by a name in a description, or by the class
where a reference is built. -/
inductive Command.Refers (c : ProviderClass) (world : World)
    (held : Option Nat → String → Value → Prop) :
    Command → List Descriptor.Turn → Entries → Prop where
  | parse {spec core : Value} {options given : Entries} {which : Option Nat}
      {path : List Descriptor.Turn} (bears : Shorthand.BearsAt spec options path core given)
      (meant : c.Meant (held (world.consulted which)) core) :
      Refers c world held (.task (.parse spec options which)) path given
  | load {text : String} {spec core : Value} {given : Entries} {which : Option Nat}
      {path : List Descriptor.Turn} (reads : Yaml.valueOfText? text = .ok (some spec))
      (bears : Shorthand.BearsAt spec [] path core given)
      (meant : c.Meant (held (world.consulted which)) core) :
      Refers c world held (.task (.load text which)) path given
  | build {given : Arguments} {options : Entries}
      (provider : given.get? "provider" = some (.providerClass c))
      (readable : Blueprint.referenceOptions? given = some options) :
      Refers c world held (.task (.build .reference given)) [] options

/-- The description by which the task works, if it reads one and answers something else. -/
def Task.described? : Task → Option Value
  | .compile spec | .compileCached spec | .convert spec _ | .issues spec _ | .validate spec _
  | .fromValid spec _ => some spec
  | _ => none

/-- The command asks for the object of the class before all else. -/
inductive Command.Takes (c : ProviderClass) : Command → Prop where
  | ensure : Takes c (.task (.ensure (.providerClass c)))
  | resolve (options : Entries) : Takes c (.task (.resolve (.providerClass c) options))
  | parse (which : Option Nat) : Takes c (.task (.parse (.providerClass c) [] which))
  | work {work : Task} (described : work.described? = some (.providerClass c)) :
      Takes c (.task work)
  | build {given : Arguments} (provider : given.get? "provider" = some (.providerClass c)) :
      Takes c (.task (.build .reference given))
  | register (which : Option Nat) (name : String) (replace : Bool) :
      Takes c (.registry which (.register name (.providerClass c) replace))
  | decorate (which : Option Nat) (name : String) (replace : Bool) :
      Takes c (.registry which (.decorate name replace (.providerClass c)))

/-! ### References hold the shared object -/

/-- Options that can be read list their entries, at any depth. -/
theorem Blueprint.listable_of_referenceOptions? {given : Arguments} {options : Entries}
    (readable : referenceOptions? given = some options) : entriesListable options = true := by
  unfold referenceOptions? at readable
  split at readable
  · cases readable
    rfl
  · cases readable
    rfl
  · obtain ⟨listable, same⟩ := Option.ite_none_right_eq_some.mp readable
    obtain rfl := Option.some.inj same
    rw [Value.listable, Bool.and_eq_true] at listable
    exact listable.2
  · exact nomatch readable

theorem Blueprint.buildReference_eq {given : Arguments} {candidate : Value} {options : Entries}
    (provider : given.get? "provider" = some candidate)
    (readable : referenceOptions? given = some options) :
    buildReference given = Descriptor.buildRef candidate options := by
  have plain : (Value.map .plain options).listable = true :=
    (Value.listable_map_plain options).trans (listable_of_referenceOptions? readable)
  unfold referenceOptions? at readable
  unfold buildReference Descriptor.buildRef
  rw [provider]
  cases asked : given.get? "options" with
  | none =>
      rw [asked] at readable
      cases readable
      rfl
  | some value =>
      rw [asked] at readable
      cases value with
      | null =>
          cases readable
          rfl
      | map kind entries =>
          obtain ⟨listable, same⟩ := Option.ite_none_right_eq_some.mp readable
          obtain rfl := Option.some.inj same
          dsimp only
          rw [Entries.snapshot_of_listable listable, Entries.snapshot_of_listable plain]
          rfl
      | _ => exact nomatch readable

theorem Value.parse_led {spec : Value} {options : Entries} {registry : Option Registry}
    {session : Session} {node : Descriptor} {later : Instances}
    (given : (spec.parse options registry).outcome session = .ok node)
    (grown : ((spec.parse options registry).after session).instances.Grows later) :
    ∃ parsed, node = parsed.descriptor ∧
      (Shorthand.parse (Registry.orElse registry session.registry) spec options).LedTo parsed
        later := by
  unfold parse at given grown
  rw [Action.outcome_bind_of_ok Action.outcome_get] at given
  rw [Action.after_bind_of_ok Action.outcome_get] at grown
  obtain ⟨parsed, read, finished⟩ := Action.outcome_bind_eq_ok.mp given
  rw [Action.after_bind_of_ok read] at grown
  cases finished
  exact ⟨parsed, rfl, session, read, grown⟩

theorem Template.load_eq {text : String} {spec : Value}
    (reads : Yaml.valueOfText? text = .ok (some spec)) (something : spec ≠ .null)
    (registry : Option Registry) : load text registry = spec.parse [] registry := by
  have specified : specification text = pure spec := by
    rw [specification, reads]
    cases spec with
    | null => exact absurd rfl something
    | _ => rfl
  rw [load, specified, pure_bind]

theorem Shorthand.BearsAt.not_null {c : ProviderClass} {held : String → Value → Prop}
    {options given : Entries} {path : List Descriptor.Turn} {core : Value}
    (meant : c.Meant held core) : ¬ BearsAt .null options path core given := by
  intro bears
  cases bears
  cases meant

theorem ProviderClass.Meant.designates {c : ProviderClass} {registry : Registry}
    {instances later : Instances} {events : List Registry.Event} {core : Value}
    (meant : c.Meant (Registry.Held events) core) (tracks : registry.Tracks instances events)
    (grown : instances.Grows later) :
    ∃ candidate, Shorthand.Designates registry core candidate ∧
      ∀ used, candidate.ServedBy later used → (Value.providerClass c).ServedBy later used := by
  cases meant with
  | itself => exact ⟨_, .shared c, fun _ served => served⟩
  | named free registered =>
      obtain ⟨kept, found, served⟩ := tracks.held _ _ registered
      cases served with
      | shared known =>
          refine ⟨_, .named free found, fun used later => ?_⟩
          cases later
          exact .shared (grown.kept _ _ known)
      | itself object => exact absurd rfl (object c)

namespace Command.Refers

variable {catalogue : Catalogue} {c : ProviderClass} {world : World}
  {events : Option Nat → List Registry.Event} {command : Command}
  {path : List Descriptor.Turn} {given : Entries}

/-- The reference holds the object that the class shares from then on. -/
theorem shared (refers : command.Refers c world (fun which => Registry.Held (events which)) path
      given) (tracks : ∀ which, (world.registry which).Tracks world.session.instances
      (events which)) {answer : Answer} (done : (command.run catalogue world).1 = .ok answer)
    {later : Instances} (grown : world.session.instances.Grows later)
    (after : (command.run catalogue world).2.session.instances.Grows later) :
    ∃ node id own, answer.node? = some node ∧ node.reach? path = some (.ref (.provider c id) own) ∧
      later.shared? c = some id ∧ (given.Hold Value.Plain → own = freezeEntries given) := by
  have read {spec core : Value} {options : Entries} {which : Option Nat} {node : Descriptor}
      (bears : Shorthand.BearsAt spec options path core given)
      (meant : c.Meant (Registry.Held (events (world.consulted which))) core)
      (parsed : (spec.parse options (which.map world.registries)).outcome world.session = .ok node)
      (kept : ((spec.parse options (which.map world.registries)).after
        world.session).instances.Grows later) :
      ∃ id own, node.reach? path = some (.ref (.provider c id) own) ∧
        later.shared? c = some id ∧ (given.Hold Value.Plain → own = freezeEntries given) := by
    obtain ⟨parsed, rfl, led⟩ := Value.parse_led parsed kept
    rw [← World.registry_consulted] at led
    obtain ⟨candidate, designates, serves⟩ := meant.designates (tracks _) grown
    obtain ⟨used, own, place, served, frozen⟩ := bears.refers designates led
    cases serves used served with
    | shared known => exact ⟨_, own, place, known, frozen⟩
    | itself object => exact absurd rfl (object c)
  cases refers with
  | @parse spec core options _ which _ bears meant =>
      obtain ⟨node, parsed, finished⟩ := Action.outcome_bind_eq_ok.mp done
      cases finished
      obtain ⟨id, own, rest⟩ := read bears meant parsed (by
        simpa [run, Task.action] using after)
      exact ⟨node, id, own, rfl, rest⟩
  | @load text spec core _ which _ reads bears meant =>
      have same : Template.load text (which.map world.registries) =
          spec.parse [] (which.map world.registries) :=
        Template.load_eq reads (fun null => Shorthand.BearsAt.not_null meant (null ▸ bears)) _
      obtain ⟨node, parsed, finished⟩ := Action.outcome_bind_eq_ok.mp done
      cases finished
      rw [same] at parsed
      obtain ⟨id, own, rest⟩ := read bears meant parsed (by
        simpa [run, Task.action, same] using after)
      exact ⟨node, id, own, rfl, rest⟩
  | @build arguments _ provider readable =>
      have same : Blueprint.reference.build arguments = (do
          return .descriptor (← Descriptor.buildRef (.providerClass c) given)) := by
        rw [Blueprint.build, Blueprint.buildReference_eq provider readable]
      obtain ⟨value, built, finished⟩ := Action.outcome_bind_eq_ok.mp done
      cases finished
      rw [same] at built
      obtain ⟨node, made, finished⟩ := Action.outcome_bind_eq_ok.mp built
      cases finished
      obtain ⟨used, own, rfl, served, frozen⟩ := Descriptor.buildRef_led
        ⟨world.session, made, by simpa [run, Task.action, same] using after⟩
      cases served with
      | shared known => exact ⟨_, _, own, rfl, rfl, known, frozen⟩
      | itself object => exact absurd rfl (object c)

end Command.Refers

/-! ### Classes of which no object can be made -/

theorem Action.Refuses.fails {action : Action α} (refuses : action.Refuses) (session : Session) :
    ∃ error, action.outcome session = .error error := by
  cases given : action.outcome session with
  | ok value => exact (refuses.gives session value trivial given).elim
  | error error => exact ⟨error, rfl⟩

section Refused

variable {catalogue : Catalogue} {c : ProviderClass} {refusal : Refusal} {command : Command}

theorem ProviderClass.conform_refused (whole : c.lacks = []) (refused : c.refusal = some refusal) :
    (Value.providerClass c).conform = throw (c.complaint refusal) := by
  have able : (Value.providerClass c).lackedOperations = [] := whole
  simp [Value.conform, able, refused]

theorem Command.run_task_throw {work : Task} {world : World} {error : Error}
    (fails : work.action catalogue world.registries = throw error) :
    (Command.task work).run catalogue world = (.error error, world) := by
  rw [run, fails]
  rfl

theorem Command.run_registry_throw {which : Option Nat} {call : Registry.Call} {world : World}
    {error : Error} (fails : call.action (world.registry which) = throw error) :
    (Command.registry which call).run catalogue world = (.error error, world) := by
  rw [run, fails]
  rfl

theorem Shorthand.parse_refused (whole : c.lacks = []) (refused : c.refusal = some refusal)
    (registry : Registry) :
    parse registry (.providerClass c) [] = throw (c.complaint refusal) := by
  rw [(Designates.shared c).parse]
  unfold Descriptor.buildRef
  rw [c.conform_refused whole refused]
  rfl

theorem Value.parse_refused (whole : c.lacks = []) (refused : c.refusal = some refusal)
    (registry : Option Registry) :
    (Value.providerClass c).parse [] registry = throw (c.complaint refusal) := by
  rw [Value.parse]
  simp only [Shorthand.parse_refused whole refused]
  rfl

theorem Task.described_refused {work : Task} (whole : c.lacks = [])
    (refused : c.refusal = some refusal) (described : work.described? = some (.providerClass c))
    (registries : Nat → Registry) :
    work.action catalogue registries = throw (c.complaint refusal) := by
  have reads : (Value.providerClass c).toDescriptor = throw (c.complaint refusal) :=
    Value.parse_refused whole refused none
  cases work with
  | compile =>
      cases described
      rw [action, Value.compile, reads]
      rfl
  | compileCached =>
      cases described
      rw [action, Value.compileCached, reads]
      rfl
  | convert | issues | validate | fromValid =>
      cases described
      rw [action, reads]
      rfl
  | _ => cases described

/-- Whatever asks for the object fails with the complaint, and nothing is left behind. -/
theorem Command.Takes.fails (takes : command.Takes c) (whole : c.lacks = [])
    (refused : c.refusal = some refusal) (world : World) :
    command.run catalogue world = (.error (c.complaint refusal), world) := by
  have conforms := c.conform_refused whole refused
  have enrolls (registry : Registry) (name : String) (replace : Bool) :
      registry.enroll name (.providerClass c) replace = throw (c.complaint refusal) := by
    rw [Registry.enroll_of_given (by simp), Registry.register, conforms]
    rfl
  cases takes with
  | ensure =>
      refine run_task_throw ?_
      rw [Task.action, conforms]
      rfl
  | resolve options =>
      refine run_task_throw ?_
      rw [Task.action, Catalogue.resolve, conforms]
      rfl
  | parse which =>
      refine run_task_throw ?_
      rw [Task.action, Value.parse_refused whole refused]
      rfl
  | work described => exact run_task_throw (Task.described_refused whole refused described _)
  | build provider =>
      refine run_task_throw ?_
      rw [Task.action, Blueprint.build, Blueprint.buildReference]
      simp only [provider, conforms]
      rfl
  | register which name replace =>
      refine run_registry_throw ?_
      rw [Registry.Call.action, enrolls]
      rfl
  | decorate which name replace =>
      refine run_registry_throw ?_
      rw [Registry.Call.action, enrolls]
      rfl

theorem not_held_of_refused (whole : c.lacks = []) (refused : c.refusal = some refusal)
    (world : World) (commands : List Command) (which : Option Nat) (name : String) :
    ¬ Registry.Held (Registry.events which (world.transcript catalogue commands)) name
      (.providerClass c) := by
  rintro ⟨before, call, after, split, registers, -⟩
  obtain ⟨reached, done⟩ := Registry.mem_events (show (⟨call, true⟩ : Registry.Event) ∈
    Registry.events which (world.transcript catalogue commands) by simp [split])
  have takes : (Command.registry which call).Takes c := by
    cases registers with
    | directly => exact .register _ _ _
    | decorating => exact .decorate _ _ _
  rw [takes.fails whole refused] at done
  exact Bool.noConfusion done

/-- A reference by means of the class is not made. -/
theorem Command.Refers.fails {world reached : World} {commands : List Command}
    {path : List Descriptor.Turn} {given : Entries}
    (refers : command.Refers c reached
      (fun which => Registry.Held (Registry.events which (world.transcript catalogue commands)))
      path given) (whole : c.lacks = []) (refused : c.refusal = some refusal) :
    ∃ error, (command.run catalogue reached).1 = .error error := by
  have core (registry : Registry) (options : Entries) :
      (Shorthand.parse registry (.providerClass c) options).Refuses := by
    rw [(Shorthand.Designates.shared c).parse]
    refine .after (fun own => Action.Refuses.bind ?_ _)
    unfold Descriptor.buildRef
    rw [c.conform_refused whole refused]
    exact Action.Refuses.bind (.throw _ _) _
  have parses {spec core : Value} {options : Entries} {held : String → Value → Prop}
      (bears : Shorthand.BearsAt spec options path core given) (meant : c.Meant held core)
      (free : ∀ name, ¬ held name (.providerClass c)) (registry : Option Registry) :
      (spec.parse options registry).Refuses := by
    cases meant with
    | itself =>
        exact .after (fun session => Action.Refuses.bind
          (bears.bears.refuses _ (fun own _ _ => core _ own)) _)
    | named _ registered => exact absurd registered (free _)
  have unheld (which : Option Nat) (name : String) : ¬ Registry.Held
      (Registry.events which (world.transcript catalogue commands)) name (.providerClass c) :=
    not_held_of_refused whole refused world commands which name
  cases refers with
  | parse bears meant =>
      exact ((parses bears meant (unheld _) _).bind _).fails reached.session
  | @load text _ _ _ which _ reads bears meant =>
      have refuses : (Template.load text (which.map reached.registries)).Refuses := by
        rw [Template.load_eq reads
          (fun null => Shorthand.BearsAt.not_null meant (null ▸ bears))]
        exact parses bears meant (unheld _) _
      exact (refuses.bind _).fails reached.session
  | build provider _ =>
      rw [(Command.Takes.build provider).fails whole refused]
      exact ⟨_, rfl⟩

end Refused

/-! ### Classes of which objects can be made -/

section Able

variable {catalogue : Catalogue} {c : ProviderClass} (whole : c.lacks = [])
  (able : c.refusal = none)
include whole able

theorem ProviderClass.outcome_conform (session : Session) :
    (Value.providerClass c).conform.outcome session =
      .ok (.provider c (session.instances.share c).1) := by
  have lacked : (Value.providerClass c).lackedOperations = [] := whole
  simp [Value.conform, lacked, able]

omit able in
theorem ProviderClass.conform_object (id : Nat) :
    (Value.provider c id).conform = pure (.provider c id) := by
  have lacked : (Value.provider c id).lackedOperations = [] := whole
  simp [Value.conform, lacked]

/-- Whatever means the class is read as a reference to the object that the class shares, or comes
to share. -/
theorem Command.parse_meant {world : World} {which : Option Nat} {events : List Registry.Event}
    (tracks : (world.registry (world.consulted which)).Tracks world.session.instances events)
    {core : Value} (meant : c.Meant (Registry.Held events) core) :
    ((Command.task (.parse core [] which)).run catalogue world).1 =
      .ok (.node (.ref (.provider c (world.session.instances.share c).1) [])) := by
  obtain ⟨candidate, designates, conforms⟩ : ∃ candidate,
      Shorthand.Designates (world.registry (world.consulted which)) core candidate ∧
        candidate.conform.outcome world.session =
          .ok (.provider c (world.session.instances.share c).1) := by
    cases meant with
    | itself => exact ⟨_, .shared c, c.outcome_conform whole able _⟩
    | named free registered =>
        obtain ⟨used, found, served⟩ := tracks.held _ _ registered
        cases served with
        | shared known =>
            refine ⟨_, .named free found, ?_⟩
            rw [c.conform_object whole, Instances.share_of_shared known]
            rfl
        | itself object => exact absurd rfl (object c)
  have built : (Descriptor.buildRef candidate []).outcome world.session =
      .ok (.ref (.provider c (world.session.instances.share c).1) []) := by
    rw [Descriptor.buildRef, Action.outcome_bind_of_ok conforms]
    rfl
  have reads : (Shorthand.parse (world.registry (world.consulted which)) core []).outcome
      world.session =
        .ok ⟨.ref (.provider c (world.session.instances.share c).1) [], false, none⟩ := by
    rw [designates.parse]
    exact Action.outcome_bind_of_ok built
  rw [World.registry_consulted] at reads
  have parsed : (Value.parse core [] (which.map world.registries)).outcome world.session =
      .ok (.ref (.provider c (world.session.instances.share c).1) []) := by
    rw [Value.parse, Action.outcome_bind_of_ok Action.outcome_get]
    exact Action.outcome_bind_of_ok reads
  exact Action.outcome_bind_of_ok parsed

theorem Command.build_class {given : Arguments}
    (provider : given.get? "provider" = some (.providerClass c))
    (readable : Blueprint.referenceOptions? given = some []) (world : World) :
    ((Command.task (.build .reference given)).run catalogue world).1 =
      .ok (.value (.descriptor (.ref (.provider c (world.session.instances.share c).1) []))) := by
  have built : (Blueprint.buildReference given).outcome world.session =
      .ok (.ref (.provider c (world.session.instances.share c).1) []) := by
    rw [Blueprint.buildReference_eq provider readable, Descriptor.buildRef,
      Action.outcome_bind_of_ok (c.outcome_conform whole able world.session)]
    rfl
  have made : (Blueprint.reference.build given).outcome world.session =
      .ok (.descriptor (.ref (.provider c (world.session.instances.share c).1) [])) := by
    rw [Blueprint.build]
    exact Action.outcome_bind_of_ok built
  exact Action.outcome_bind_of_ok made

end Able

/-! ### Objects made separately -/

/-- An object that is made is not the one that a class shares, whenever it comes to share it. -/
theorem Instances.Grows.apart {start earlier later : Instances} {c : ProviderClass} {id : Nat}
    (unshared : start.shared? c = none) (grown : start.Grows earlier)
    (after : earlier.fresh.2.Grows later) (known : later.shared? c = some id) :
    id ≠ earlier.next := by
  rcases after.made c id known with before | ⟨least, -⟩
  · rcases grown.made c id before with first | ⟨-, most⟩
    · exact nomatch unshared.symm.trans first
    · exact most.ne
  · exact Nat.ne_of_gt least

theorem Command.create_ok {catalogue : Catalogue} {c : ProviderClass} {world : World}
    {made : Value}
    (given : ((Command.task (.create c)).run catalogue world).1 = .ok (.value made)) :
    made = .provider c world.session.instances.next ∧
      ((Command.task (.create c)).run catalogue world).2.session.instances =
        world.session.instances.fresh.2 := by
  rw [run, Task.action] at given ⊢
  cases refusal : c.refusal with
  | some text =>
      rw [ProviderClass.create, refusal] at given
      cases given
  | none =>
      rw [ProviderClass.create, refusal] at given ⊢
      cases given
      exact ⟨rfl, rfl⟩

theorem Descriptor.ref_ne_of_object {id other : Nat} (differs : id ≠ other)
    (c d : ProviderClass) (own others : Entries) :
    (ref (.provider c id) own).same (ref (.provider d other) others) = false := by
  have apart : (Value.provider c id).same false (.provider d other) = false :=
    decide_eq_false differs
  rw [same, apart, Bool.false_and]

/-! ### Whole runs -/

namespace World

variable {catalogue : Catalogue} {start : World} {before rest : List Command}
  {command : Command} {c d : ProviderClass} {later : Instances}

/-- What a command leaves on the way grows until the end of the run. -/
theorem run_grows_after (providers : catalogue.Growing (before ++ command :: rest))
    (start : World) :
    (command.run catalogue (start.run catalogue before)).2.session.instances.Grows
      (start.run catalogue (before ++ command :: rest)).session.instances := by
  have ahead : catalogue.Growing rest := providers.of_sublist (by simp)
  rw [run_append, run_cons]
  exact run_grows ahead _

/-- A reference that is made on the way holds what the class shares after the run. -/
theorem refers_shared (fresh : ∀ which, start.registry which = {})
    (providers : catalogue.Growing (before ++ command :: rest))
    (grown : (start.run catalogue (before ++ command :: rest)).session.instances.Grows later)
    {path : List Descriptor.Turn} {given : Entries} {reply : Answer}
    (refers : command.Refers c (start.run catalogue before)
      (fun which => Registry.Held (Registry.events which (start.transcript catalogue before)))
      path given)
    (done : (command.run catalogue (start.run catalogue before)).1 = .ok reply) :
    ∃ node id own, reply.node? = some node ∧
      node.reach? path = some (.ref (.provider c id) own) ∧
      later.shared? c = some id ∧ (given.Hold Value.Plain → own = freezeEntries given) := by
  have first : catalogue.Growing before := providers.of_sublist (by simp)
  have here : catalogue.Growing [command] := providers.of_sublist (by simp)
  have after := (run_grows_after providers start).trans grown
  exact refers.shared (fun which => tracks_of_empty first (fresh which)) done
    ((Command.run_grows here).trans after) after

/-- An object that is made on the way is not the one that a class shares after the run. -/
theorem created_apart (unshared : start.session.instances.shared? c = none)
    (providers : catalogue.Growing (before ++ .task (.create d) :: rest))
    (grown : (start.run catalogue (before ++ .task (.create d) :: rest)).session.instances.Grows
      later) {id : Nat} (known : later.shared? c = some id) {made : Value}
    (done : ((Command.task (.create d)).run catalogue (start.run catalogue before)).1 =
      .ok (.value made)) :
    ∃ other, made = .provider d other ∧ id ≠ other := by
  obtain ⟨rfl, left⟩ := Command.create_ok done
  have first : catalogue.Growing before := providers.of_sublist (by simp)
  have after := (run_grows_after providers start).trans grown
  rw [left] at after
  exact ⟨_, rfl, Instances.Grows.apart unshared (run_grows first start) after known⟩

end World

namespace ProviderClass

variable {catalogue : Catalogue} {commands : List Command}

/-- In a run from the start, all references that are made by means of a class hold one object.
Where objects of the class can be made, whatever means the class after the run is a reference to
it.  References with equal JSON options are equal and found under one another in every cache, and
no reference to an object made separately equals them.  Where no object of the class can be made,
whatever asks for it fails with one complaint and changes nothing, and no reference is ever made
by means of it. -/
theorem shares_one_object (providers : catalogue.Growing commands) (environment : Environment)
    (log : Log) (c : ProviderClass) :
    let start : World := { session := { environment, log } }
    let reached (before : List Command) := start.run catalogue before
    let answer (before : List Command) (command : Command) :=
      (command.run catalogue (reached before)).1
    let held (before : List Command) (which : Option Nat) :=
      Registry.Held (Registry.events which (start.transcript catalogue before))
    let refers (before : List Command) (command : Command) :=
      command.Refers c (reached before) (held before)
    ∃ id,
      (∀ before command rest path given reply, commands = before ++ command :: rest →
        refers before command path given → answer before command = .ok reply →
          ∃ node own, reply.node? = some node ∧
            node.reach? path = some (.ref (.provider c id) own) ∧
            (given.Hold Value.Json → own = freezeEntries given)) ∧
      (c.lacks = [] → c.refusal = none →
        (∀ which core, c.Meant (held commands ((reached commands).consulted which)) core →
          answer commands (.task (.parse core [] which)) =
            .ok (.node (.ref (.provider c id) []))) ∧
        ∀ given : Arguments, given.get? "provider" = some (.providerClass c) →
          Blueprint.referenceOptions? given = some [] →
            answer commands (.task (.build .reference given)) =
              .ok (.value (.descriptor (.ref (.provider c id) [])))) ∧
      (∀ options others, Entries.Hold Value.Json options → Entries.Hold Value.Json others →
        (Value.map .plain options).eqv (.map .plain others) = true →
          let one := Descriptor.ref (.provider c id) (freezeEntries options)
          let two := Descriptor.ref (.provider c id) (freezeEntries others)
          one.same two = true ∧ ∀ (cache : Cache) capacity document, 0 < capacity →
            (cache.store capacity one document).lookup? two =
              some (document, cache.store capacity one document)) ∧
      (∀ before rest made, commands = before ++ .task (.create c) :: rest →
        answer before (.task (.create c)) = .ok (.value made) → ∀ own others,
          (Descriptor.ref (.provider c id) own).same (.ref made others) = false ∧
            (Descriptor.ref made others).same (.ref (.provider c id) own) = false) ∧
      (c.lacks = [] → ∀ refusal, c.refusal = some refusal →
        (∀ (command : Command) (world : World), command.Takes c →
          command.run catalogue world = (.error (c.complaint refusal), world)) ∧
        ∀ before command path given, refers before command path given →
          ∃ error, answer before command = .error error) := by
  intro start reached answer held refers
  -- The class may come to share its object only after the run.
  have known := (reached commands).session.instances.shared?_share_self (c := c)
  have grown := Instances.Grows.share (reached commands).session.instances c
  have fresh (which : Option Nat) : start.registry which = {} := by
    cases which <;> rfl
  refine ⟨_, fun before command rest path given reply split refers done => ?_,
    fun whole able => ⟨fun which core meant =>
      Command.parse_meant whole able (World.tracks_of_empty providers (fresh _)) meant,
      fun given provider readable => Command.build_class whole able provider readable _⟩,
    fun options others json json' equal => ?_,
    fun before rest made split done own others => ?_,
    fun whole refusal refused => ⟨fun command world takes => takes.fails whole refused world,
      fun before command path given refers => refers.fails whole refused⟩⟩
  · subst split
    obtain ⟨node, id, own, answered, place, shared, frozen⟩ :=
      World.refers_shared fresh providers grown refers done
    cases shared.symm.trans known
    exact ⟨node, own, answered, place, fun json => frozen (json.imp Value.plain_of_json)⟩
  · have itself (id : Nat) : (Value.provider c id).eqv (.provider c id) = true :=
      decide_eq_true rfl
    obtain ⟨same, answers⟩ := Descriptor.share_entry_of_json (itself _) json json' equal
    exact ⟨same, fun cache capacity document room =>
      cache.lookup?_store answers room document⟩
  · subst split
    have unshared : start.session.instances.shared? c = none := rfl
    obtain ⟨other, rfl, differs⟩ := World.created_apart unshared providers grown known done
    exact ⟨Descriptor.ref_ne_of_object differs _ _ _ _,
      Descriptor.ref_ne_of_object differs.symm _ _ _ _⟩

/-- The class by itself and by a name, around a registration that fails and a provider that comes
to work. -/
theorem shares_one_object_around_failure :
    let money : ProviderClass := { key := "Money", typeName := "Money" }
    let registrations : List Command :=
      [.registry none (.register "money" (.providerClass money) false),
        .registry none (.register "money" (.providerClass money) false),
        .task (.compile (.text "money"))]
    let list : Command := .task (.parse (.list [.text "money"]) [] none)
    let answer (before : List Command) (command : Command) :=
      (command.run (fun _ => .delegating) (World.run (fun _ => .delegating) {} before)).1
    ∃ id node, answer registrations list = .ok (.node node) ∧
      node.reach? [.element] = some (.ref (.provider money id) []) ∧
      answer (registrations ++ [list]) (.task (.parse (.providerClass money) [] none)) =
        .ok (.node (.ref (.provider money id) [])) := by
  intro money registrations list answer
  have held : Registry.Held (Registry.events none
      (World.transcript (fun _ => .delegating) {} registrations)) "money"
        (.providerClass money) := by
    refine ⟨[], _, _, rfl, .directly (by simp), fun event among settles => ?_⟩
    rw [List.mem_singleton.mp among] at settles
    exact nomatch settles.1
  obtain ⟨id, alike, direct, -⟩ := @shares_one_object _ (registrations ++ [list])
    (fun _ => Discipline.growing.keeps_delegating) {} {} money
  obtain ⟨node, own, answered, place, frozen⟩ := alike registrations list [] [.element] [] _ rfl
    (.parse (.element (.core [] rfl)) (.named rfl held)) rfl
  cases answered
  rw [frozen .nil] at place
  exact ⟨id, _, rfl, place, (direct rfl rfl).1 none _ .itself⟩

end ProviderClass

end RecordSchema
