import RecordSchema.Descriptor.Blueprint
import RecordSchema.Log.Setup
import RecordSchema.Proofs.Conversion.Discipline
import RecordSchema.Proofs.Session.Calls
import RecordSchema.Template

namespace RecordSchema

/-! Whole runs of a program that uses the library: one command after the other, with what each
answers.  A command that fails keeps what it did before, and the next one starts from there. -/

namespace Action

/-- An answer that is only dressed up. -/
@[simp] theorem outcome_map (action : Action α) (dress : α → β) (session : Session) :
    (dress <$> action).outcome session = (action.outcome session).map dress := by
  rw [map_eq_pure_bind, outcome_bind]
  cases action.outcome session <;> rfl

@[simp] theorem after_map (action : Action α) (dress : α → β) (session : Session) :
    (dress <$> action).after session = action.after session := by
  rw [map_eq_pure_bind, after_bind]
  cases action.outcome session <;> rfl

end Action

/-! ### Calls on registries -/

namespace Registry

/-- A call on a registry.  Registering nothing gives a decorator, which `decorate` applies. -/
inductive Call where
  | register (name : String) (candidate : Value) (replace : Bool)
  | decorate (name : String) (replace : Bool) (candidate : Value)
  | unregister (name : String)
  | clear
  | get (name : String)
  | names
  | contains (name : String)
  | size

inductive Reply where
  | decorator (name : String) (replace : Bool)
  | value (value : Value)
  | names (names : List String)
  | contained (found : Bool)
  | size (count : Nat)
  | done

def Reply.registered (name : String) (candidate : Value) (replace : Bool) : Reply :=
  match candidate with
  | .null => .decorator name replace
  | candidate => .value candidate

/-- The registry with a candidate, if there is one. -/
def enroll (registry : Registry) (name : String) (candidate : Value) (replace : Bool) :
    Action Registry :=
  match candidate with
  | .null => pure registry
  | candidate => registry.register name candidate replace

def Call.action (registry : Registry) : Call → Action (Registry × Reply)
  | .register name candidate replace => do
      let registry ← registry.enroll name candidate replace
      return (registry, .registered name candidate replace)
  | .decorate name replace candidate => do
      let registry ← registry.enroll name candidate replace
      return (registry, .value candidate)
  | .unregister name => do
      let registry ← registry.unregister name
      return (registry, .done)
  | .clear => return ({}, .done)
  | .get name => do
      let provider ← registry.lookup name
      return (registry, .value provider)
  | .names => return (registry, .names registry.names)
  | .contains name => return (registry, .contained (registry.contains name))
  | .size => return (registry, .size registry.size)

end Registry

/-! ### Calls on a session -/

/-- What is raised where no object is made. -/
def Refusal.raised : Refusal → Fault
  | .type _ => .type
  | .fault raised _ => raised

/-- A new object of a class. -/
def ProviderClass.create (c : ProviderClass) : Copying Value :=
  match c.refusal with
  | some refusal => throw refusal.raised
  | none => fun instances => (.ok (.provider c instances.fresh.1), instances.fresh.2)

inductive Answer where
  | node (node : Descriptor)
  | value (value : Value)
  | document (document : Document)
  | issues (issues : List Issue)
  | reply (reply : Registry.Reply)
  | file (path : Option String)
  | done

/-- A call of the library that changes no registry.  Names are looked up in one of the
registries of the program, or in the one of the session. -/
inductive Task where
  | parse (spec : Value) (options : Entries) (which : Option Nat)
  | load (text : String) (which : Option Nat)
  | build (blueprint : Blueprint) (given : Arguments)
  | create (c : ProviderClass)
  | ensure (candidate : Value)
  | resolve (provider : Value) (options : Entries)
  | compile (spec : Value)
  | compileCached (spec : Value)
  | clearCaches
  | convert (spec value : Value)
  | issues (spec value : Value)
  | validate (spec value : Value)
  | fromValid (spec value : Value)

namespace Task

/-- Whether providers come to work, which may do anything that the library does. -/
def runsProviders : Task → Bool
  | .parse .. | .load .. | .build .. | .create _ | .ensure _ | .clearCaches => false
  | _ => true

def action (catalogue : Catalogue) (registries : Nat → Registry) : Task → Action Answer
  | .parse spec options which => do
      return .node (← spec.parse options (which.map registries))
  | .load text which => do
      return .node (← Template.load text (which.map registries))
  | .build blueprint given => do
      return .value (← blueprint.build given)
  | .create c => do
      return .value (← Action.copying c.create)
  | .ensure candidate => do
      return .value (← candidate.conform)
  | .resolve provider options => do
      return .node (← catalogue.resolve provider options)
  | .compile spec => do
      return .document (← spec.compile catalogue)
  | .compileCached spec => do
      return .document (← spec.compileCached catalogue)
  | .clearCaches => do
      RecordSchema.clearCaches
      return .done
  | .convert spec value => do
      return .value (← (← spec.toDescriptor).convert catalogue value)
  | .issues spec value => do
      return .issues (← (← spec.toDescriptor).issues catalogue value)
  | .validate spec value => do
      (← spec.toDescriptor).validate catalogue value
      return .done
  | .fromValid spec value => do
      return .value (← (← spec.toDescriptor).fromValid catalogue value)

end Task

/-! ### Runs -/

/-- The session, with the registries that the program has besides the one of the session. -/
structure World where
  session : Session := {}
  registries : Nat → Registry := fun _ => {}

namespace World

def registry (world : World) : Option Nat → Registry
  | none => world.session.registry
  | some which => world.registries which

def place (world : World) (registry : Registry) : Option Nat → World
  | none => { world with session := { world.session with registry := registry } }
  | some which =>
      { world with
        registries := fun other => if other = which then registry else world.registries other }

def perform (world : World) (action : Action α) : World :=
  { world with session := action.after world.session }

end World

inductive Command where
  | task (work : Task)
  | registry (which : Option Nat) (call : Registry.Call)
  | setup (stamp : Log.Stamp) (request : Log.Request)

namespace Command

/-- What the command answers, and the world that it leaves. -/
def run (catalogue : Catalogue) (world : World) : Command → Except Error Answer × World
  | .task work =>
      let action := work.action catalogue world.registries
      (action.outcome world.session, world.perform action)
  | .registry which call =>
      let action := call.action (world.registry which)
      match action.outcome world.session with
      | .ok (later, reply) => (.ok (.reply reply), (world.perform action).place later which)
      | .error error => (.error error, world.perform action)
  | .setup stamp request =>
      let result := (Log.setup world.session.environment stamp request).run.run world.session.log
      (result.1.map .file, { world with session := { world.session with log := result.2 } })

def runsProviders : Command → Bool
  | .task work => work.runsProviders
  | _ => false

end Command

namespace World

variable (catalogue : Catalogue)

def run (world : World) (commands : List Command) : World :=
  commands.foldl (fun world command => (command.run catalogue world).2) world

/-- The commands with what they answer. -/
def transcript : World → List Command → List (Command × Except Error Answer)
  | _, [] => []
  | world, command :: rest =>
      (command, (command.run catalogue world).1) ::
        transcript (command.run catalogue world).2 rest

variable {catalogue}

@[simp] theorem run_nil (world : World) : world.run catalogue [] = world := rfl

@[simp] theorem run_cons (world : World) (command : Command) (rest : List Command) :
    world.run catalogue (command :: rest) =
      World.run catalogue (command.run catalogue world).2 rest := rfl

theorem run_append (world : World) (commands later : List Command) :
    world.run catalogue (commands ++ later) =
      (world.run catalogue commands).run catalogue later :=
  List.foldl_append

@[simp] theorem session_perform (world : World) (action : Action α) :
    (world.perform action).session = action.after world.session := rfl

@[simp] theorem registry_place (world : World) (registry : Registry) (which : Option Nat) :
    (world.place registry which).registry which = registry := by
  cases which with
  | none => rfl
  | some which => simp [place, World.registry]

theorem registry_place_of_ne (world : World) (registry : Registry) {which other : Option Nat}
    (differs : other ≠ which) :
    (world.place registry which).registry other = world.registry other := by
  cases which with
  | none =>
      cases other with
      | none => exact absurd rfl differs
      | some other => rfl
  | some which =>
      cases other with
      | none => rfl
      | some other =>
          have apart : other ≠ which := fun same => differs (congrArg some same)
          simp [place, World.registry, apart]

end World

/-! ### Disciplines of commands -/

theorem ProviderClass.create_allocates (c : ProviderClass) : c.create.Allocates := by
  unfold create
  split
  · exact .throw _
  · exact fun _ => ⟨rfl, Nat.le_succ _⟩

theorem Registry.Call.keeps (discipline : Discipline) (registry : Registry) (call : Call) :
    discipline.holds (call.action registry) := by
  have enrolls (name : String) (candidate : Value) (replace : Bool) :
      discipline.holds (registry.enroll name candidate replace) := by
    unfold enroll
    split
    · exact discipline.value _
    · exact discipline.register _ _ _ _
  cases call with
  | register name candidate replace =>
      exact discipline.bind (enrolls _ _ _) (fun _ => discipline.value _)
  | decorate name replace candidate =>
      exact discipline.bind (enrolls _ _ _) (fun _ => discipline.value _)
  | unregister name =>
      exact discipline.bind (discipline.unregister _ _) (fun _ => discipline.value _)
  | get name => exact discipline.bind (discipline.lookup _ _) (fun _ => discipline.value _)
  | clear => exact discipline.value _
  | names => exact discipline.value _
  | contains name => exact discipline.value _
  | size => exact discipline.value _

theorem Task.keeps (task : Task) (calling : Discipline.Calling) {catalogue : Catalogue}
    (providers : task.runsProviders = true → calling.Keeps catalogue)
    (registries : Nat → Registry) : calling.holds (task.action catalogue registries) := by
  cases task with
  | parse spec options which =>
      exact calling.bind (calling.parse _ _ _) (fun _ => calling.value _)
  | load text which => exact calling.bind (calling.load _ _) (fun _ => calling.value _)
  | build blueprint given =>
      exact calling.bind (calling.blueprint _ _) (fun _ => calling.value _)
  | create c =>
      exact calling.bind (calling.copying c.create_allocates) (fun _ => calling.value _)
  | ensure candidate => exact calling.bind (calling.reading.conform _) (fun _ => calling.value _)
  | resolve provider options =>
      exact calling.bind ((providers rfl).resolves.resolve _ _) (fun _ => calling.value _)
  | compile spec =>
      exact calling.bind (calling.bind (calling.toDescriptor spec)
        (fun node => (providers rfl).resolves.compile node)) (fun _ => calling.value _)
  | compileCached spec =>
      exact calling.bind (calling.bind (calling.toDescriptor spec)
        (fun node => (providers rfl).compileCached node)) (fun _ => calling.value _)
  | clearCaches => exact calling.bind calling.forget (fun _ => calling.value _)
  | convert spec value =>
      exact calling.bind (calling.toDescriptor spec) (fun node =>
        calling.bind ((providers rfl).convert node value) (fun _ => calling.value _))
  | issues spec value =>
      exact calling.bind (calling.toDescriptor spec) (fun node =>
        calling.bind ((providers rfl).issues node value) (fun _ => calling.value _))
  | validate spec value =>
      exact calling.bind (calling.toDescriptor spec) (fun node =>
        calling.bind ((providers rfl).validate node value) (fun _ => calling.value _))
  | fromValid spec value =>
      exact calling.bind (calling.toDescriptor spec) (fun node =>
        calling.bind ((providers rfl).fromValid node value) (fun _ => calling.value _))

end RecordSchema
