import Mathlib.Data.List.Basic
import RecordSchema.Log.Setup

namespace RecordSchema

/-! Setups of the log that fail.  There are five stages at which one can stop; what was done
to the log before stays, and the first thing done is the new session. -/

namespace Log

/-! ### Steps -/

namespace Step

variable {α β : Type} {log left : Log} {error : Error}

/-- What a step gives, and the log that it leaves. -/
def result (step : Step α) (log : Log) : Except Error α × Log :=
  step.run.run log

@[simp] theorem result_pure (value : α) (log : Log) :
    result (pure value) log = (.ok value, log) := rfl

@[simp] theorem result_throw (error : Error) (log : Log) :
    (throw error : Step α).result log = (.error error, log) := rfl

@[simp] theorem result_get (log : Log) : (get : Step Log).result log = (.ok log, log) := rfl

@[simp] theorem result_modify (change : Log → Log) (log : Log) :
    (modify change : Step Unit).result log = (.ok (), change log) := rfl

theorem result_bind_of_ok {step : Step α} {next : α → Step β} {value : α}
    (goes : step.result log = (.ok value, left)) :
    (step >>= next).result log = (next value).result left := by
  have unfolded : (step >>= next).result log =
      ExceptT.bindCont next (step.result log).1 (step.result log).2 := rfl
  rw [unfolded, goes]
  rfl

theorem result_bind_of_error {step : Step α} {next : α → Step β}
    (fails : step.result log = (.error error, left)) :
    (step >>= next).result log = (.error error, left) := by
  have unfolded : (step >>= next).result log =
      ExceptT.bindCont next (step.result log).1 (step.result log).2 := rfl
  rw [unfolded, fails]
  rfl

theorem result_modify_bind (change : Log → Log) (next : Step β) :
    ((modify change : Step Unit) >>= fun _ => next).result log = next.result (change log) :=
  result_bind_of_ok (result_modify change log)

/-- A sequence of steps fails in the first, or in the rest on what the first leaves. -/
theorem bind_eq_error {step : Step α} {next : α → Step β} :
    (step >>= next).result log = (.error error, left) ↔
      step.result log = (.error error, left) ∨
        ∃ value middle, step.result log = (.ok value, middle) ∧
          (next value).result middle = (.error error, left) := by
  rcases given : step.result log with ⟨first, middle⟩
  cases first with
  | ok value => rw [result_bind_of_ok given]; simp
  | error found => rw [result_bind_of_error given]; simp

theorem bind_eq_ok {step : Step α} {next : α → Step β} {final : β} :
    (step >>= next).result log = (.ok final, left) ↔
      ∃ value middle, step.result log = (.ok value, middle) ∧
        (next value).result middle = (.ok final, left) := by
  rcases given : step.result log with ⟨first, middle⟩
  cases first with
  | ok value => rw [result_bind_of_ok given]; simp
  | error found => rw [result_bind_of_error given]; simp

/-- A step that goes through whatever the log is. -/
def Total (step : Step α) : Prop :=
  ∀ log, ∃ value left, step.result log = (.ok value, left)

theorem Total.not_error {step : Step α} (total : step.Total) :
    step.result log ≠ (.error error, left) := by
  obtain ⟨value, after, goes⟩ := total log
  rw [goes]
  exact nofun

theorem total_pure (value : α) : Total (pure value) :=
  fun log => ⟨value, log, rfl⟩

theorem total_modify (change : Log → Log) : Total (modify change : Step Unit) :=
  fun log => ⟨(), change log, rfl⟩

theorem total_get : Total (get : Step Log) :=
  fun log => ⟨log, log, rfl⟩

theorem Total.bind {step : Step α} {next : α → Step β} (total : step.Total)
    (further : ∀ value, (next value).Total) : (step >>= next).Total := by
  intro log
  obtain ⟨value, middle, goes⟩ := total log
  obtain ⟨final, left, ends⟩ := further value middle
  exact ⟨final, left, (result_bind_of_ok goes).trans ends⟩

end Step

/-! ### What the stages find -/

section Stages

variable {environment : Environment} {stamp : Stamp} {request : Request} {disk : Disk}
  {log left : Log} {error : Error}

/-- Neither the request nor a variable names the level, so the settings have to. -/
def Request.Unnamed (request : Request) (environment : Environment) : Prop :=
  request.level = none ∧ environment.bindings.get? "SIMPLESCHEMA_LOG_LEVEL" = none

/-- The settings cannot be read, which is the error. -/
def Unreadable (environment : Environment) (error : Error) : Prop :=
  ∃ complaints, Settings.read environment [] = .refused complaints ∧ error = .refused complaints

theorem settings_eq_error :
    (Log.settings environment).result log = (.error error, left) ↔
      Unreadable environment error ∧ log = left := by
  unfold Log.settings Unreadable
  cases Settings.read environment [] with
  | accepted settings => simp
  | refused complaints => simp [eq_comm]

/-- The name of the level: the one asked for, else the one of the variable, else the one of
the settings if they can be read. -/
inductive Request.Names (environment : Environment) (request : Request) : String → Prop
  | asked {name : String} (given : request.level = some name) : Names environment request name
  | bound {name : String} (absent : request.level = none)
      (bound : environment.bindings.get? "SIMPLESCHEMA_LOG_LEVEL" = some name) :
      Names environment request name
  | settled {settings : Settings} (unnamed : request.Unnamed environment)
      (readable : Settings.read environment [] = .accepted settings) :
      Names environment request
        (if settings.logLevel.isEmpty then "WARNING" else settings.logLevel)

theorem levelNameFor_eq_ok {name : String} :
    (levelNameFor environment request).result log = (.ok name, left) ↔
      request.Names environment name ∧ log = left := by
  constructor
  · intro goes
    unfold levelNameFor at goes
    split at goes
    case h_1 given =>
        cases goes
        exact ⟨.asked given, rfl⟩
    case h_2 absent bound =>
        cases goes
        exact ⟨.bound absent bound, rfl⟩
    case h_3 absent unbound =>
        cases read : Settings.read environment [] with
        | accepted settings =>
            rw [Log.settings, read] at goes
            cases goes
            exact ⟨.settled ⟨absent, unbound⟩ read, rfl⟩
        | refused complaints =>
            rw [Log.settings, read] at goes
            exact nomatch goes
  · rintro ⟨named, rfl⟩
    unfold levelNameFor
    cases named with
    | asked given => rw [given]; rfl
    | bound absent bound => rw [absent, bound]; rfl
    | settled unnamed readable => rw [unnamed.1, unnamed.2, Log.settings, readable]; rfl

theorem levelNameFor_eq_error :
    (levelNameFor environment request).result log = (.error error, left) ↔
      request.Unnamed environment ∧ Unreadable environment error ∧ log = left := by
  unfold levelNameFor Request.Unnamed
  split
  case h_1 given => simp [given]
  case h_2 absent bound => simp [bound]
  case h_3 absent unbound =>
      rw [Step.bind_eq_error, settings_eq_error]
      simp [absent, unbound]

/-- The request leaves the directory of the file to the settings. -/
def Request.Undirected (request : Request) : Prop :=
  request.logDir = none ∧ request.toFile = true

/-- The directory of the file: the one asked for, else the one of the settings if it is asked
for and they can be read; or none. -/
inductive Request.Directs (environment : Environment) (request : Request) : Option String → Prop
  | asked {directory : String} (given : request.logDir = some directory) :
      Directs environment request (some directory)
  | settled {settings : Settings} (undirected : request.Undirected)
      (readable : Settings.read environment [] = .accepted settings) :
      Directs environment request (some settings.logDir)
  | unasked (absent : request.logDir = none) (fileless : request.toFile = false) :
      Directs environment request none

theorem directoryFor_eq_ok {directory : Option String} :
    (directoryFor environment request).result log = (.ok directory, left) ↔
      request.Directs environment directory ∧ log = left := by
  constructor
  · intro goes
    unfold directoryFor at goes
    split at goes
    case h_1 given =>
        cases goes
        exact ⟨.asked given, rfl⟩
    case h_2 absent =>
        split at goes
        case isTrue toFile =>
            cases read : Settings.read environment [] with
            | accepted settings =>
                rw [Log.settings, read] at goes
                cases goes
                exact ⟨.settled ⟨absent, toFile⟩ read, rfl⟩
            | refused complaints =>
                rw [Log.settings, read] at goes
                exact nomatch goes
        case isFalse fileless =>
            cases goes
            exact ⟨.unasked absent (Bool.eq_false_iff.mpr fileless), rfl⟩
  · rintro ⟨directs, rfl⟩
    unfold directoryFor
    cases directs with
    | asked given => rw [given]; rfl
    | settled undirected readable =>
        rw [undirected.1, undirected.2, Log.settings, readable]
        rfl
    | unasked absent fileless => rw [absent, fileless]; rfl

theorem directoryFor_eq_error :
    (directoryFor environment request).result log = (.error error, left) ↔
      request.Undirected ∧ Unreadable environment error ∧ log = left := by
  unfold directoryFor Request.Undirected
  split
  case h_1 directory given => simp [given]
  case h_2 absent =>
      split
      case isTrue toFile =>
          rw [Step.bind_eq_error, settings_eq_error]
          simp [absent, toFile]
      case isFalse unasked => simp [unasked]

/-! ### The stages of a setup -/

/-- The level that a name stands for; a misnomer fails. -/
def levelStep (name : String) : Step Nat :=
  match levelOf name with
  | .ok level => pure level
  | .error fault => throw (.fault fault)

/-- The handler of a file in the directory, which is made before and may be there. -/
def filing (stamp : Stamp) (level : Nat) (disk : Disk) : Option String → Step Unit
  | none => pure ()
  | some directory => do
      attempt (disk.making directory)
      let file := Directory.entry directory (fileName stamp)
      modify (fun log => { log with file := some file })
      attempt (disk.opening file)
      addHandler .file level

def listening (request : Request) (level : Nat) : Step Unit :=
  if request.console then addHandler .console level else pure ()

/-- What a setup does when all handlers are there. -/
def starting (stamp : Stamp) (name : String) : Step (Option String) := do
  modify (fun log => { log with propagate := false })
  modify (fun log => log.emit rootName info
    s!"simpleschema logging session {stamp.session} started (level {capitals name})")
  return (← get).file

/-- The silent handler stands in for none. -/
def opening (stamp : Stamp) (name : String) : Step (Option String) := do
  if (← get).handlers.isEmpty then addHandler .silent 0
  starting stamp name

theorem setup_eq (environment : Environment) (stamp : Stamp) (request : Request) (disk : Disk) :
    setup environment stamp request disk = (do
      modify (fun log => { log with session := some stamp.session })
      let name ← levelNameFor environment request
      modify (fun log => { log with handlers := [], marks := [] })
      let level ← levelStep name
      modify (fun log => { log with level := level, marks := [stamp.session], file := none })
      let directory ← directoryFor environment request
      filing stamp level disk directory
      listening request level
      opening stamp name) := by
  unfold setup
  refine congrArg (bind _) (funext fun _ => congrArg (bind _) (funext fun name =>
    congrArg (bind _) (funext fun _ => ?_)))
  unfold levelStep
  cases levelOf name with
  | error fault => rfl
  | ok level =>
      refine congrArg (bind _) (funext fun level => congrArg (bind _) (funext fun _ =>
        congrArg (bind _) (funext fun directory => ?_)))
      unfold listening
      cases directory with
      | none => cases request.console <;> rfl
      | some path =>
          simp only [filing, bind_assoc]
          cases request.console <;> rfl

theorem attempt_eq_error {kept : Option Fault} :
    (attempt kept).result log = (.error error, left) ↔
      (∃ fault, kept = some fault ∧ error = .fault fault) ∧ log = left := by
  unfold attempt
  cases kept <;> simp [eq_comm]

theorem attempt_eq_ok {kept : Option Fault} {done : Unit} :
    (attempt kept).result log = (.ok done, left) ↔ kept = none ∧ log = left := by
  unfold attempt
  cases kept <;> simp

theorem filing_eq_error {level : Nat} {directory : Option String} :
    (filing stamp level disk directory).result log = (.error error, left) ↔
      ∃ path fault, directory = some path ∧ error = .fault fault ∧
        (disk.making path = some fault ∧ log = left ∨
          disk.making path = none ∧
            disk.opening (Directory.entry path (fileName stamp)) = some fault ∧
            { log with file := some (Directory.entry path (fileName stamp)) } = left) := by
  have handles (log : Log) : (addHandler .file level).result log ≠ (.error error, left) :=
    (Step.total_modify _).not_error
  cases directory with
  | none => simp [filing]
  | some path =>
      simp only [filing, Step.bind_eq_error, Step.result_modify_bind, attempt_eq_error,
        attempt_eq_ok, handles, and_false, exists_false, or_false]
      constructor
      · rintro (⟨⟨fault, unmade, rfl⟩, rfl⟩ | ⟨_, _, ⟨made, rfl⟩, ⟨fault, unopened, rfl⟩, rfl⟩)
        · exact ⟨path, fault, rfl, rfl, .inl ⟨unmade, rfl⟩⟩
        · exact ⟨path, fault, rfl, rfl, .inr ⟨made, unopened, rfl⟩⟩
      · rintro ⟨_, fault, ⟨rfl⟩, rfl, ⟨unmade, rfl⟩ | ⟨made, unopened, rfl⟩⟩
        · exact .inl ⟨⟨fault, unmade, rfl⟩, rfl⟩
        · exact .inr ⟨(), _, ⟨made, rfl⟩, ⟨fault, unopened, rfl⟩, rfl⟩

theorem total_listening (request : Request) (level : Nat) : (listening request level).Total := by
  unfold listening
  split
  · exact Step.total_modify _
  · exact Step.total_pure ()

theorem total_opening (stamp : Stamp) (name : String) : (opening stamp name).Total := by
  have starts : (starting stamp name).Total := fun log => ⟨_, _, rfl⟩
  refine .bind Step.total_get (fun log => ?_)
  dsimp only
  split
  · exact .bind (Step.total_modify _) (fun _ => starts)
  · exact starts

theorem levelStep_eq_ok {name : String} {level : Nat} :
    (levelStep name).result log = (.ok level, left) ↔ levelOf name = .ok level ∧ log = left := by
  unfold levelStep
  cases levelOf name <;> simp

theorem levelStep_eq_error {name : String} :
    (levelStep name).result log = (.error error, left) ↔
      (∃ fault, levelOf name = .error fault ∧ error = .fault fault) ∧ log = left := by
  unfold levelStep
  cases levelOf name <;> simp [eq_comm]

/-! ### Failing setups -/

/-- The log once the level is known: no handlers, the new session on all its lines, and no
file. -/
def renewed (stamp : Stamp) (level : Nat) (log : Log) : Log :=
  { log with
    session := some stamp.session, handlers := [], marks := [stamp.session],
    level := level, file := none }

/-- How a setup fails, and the log that it leaves. -/
inductive Interrupted (environment : Environment) (stamp : Stamp) (request : Request)
    (disk : Disk) (log : Log) : Error → Log → Prop
  | naming {error : Error} (unnamed : request.Unnamed environment)
      (unreadable : Unreadable environment error) :
      Interrupted environment stamp request disk log error
        { log with session := some stamp.session }
  | levelling {name : String} {fault : Fault} (named : request.Names environment name)
      (misnamed : levelOf name = .error fault) :
      Interrupted environment stamp request disk log (.fault fault)
        { log with session := some stamp.session, handlers := [], marks := [] }
  | directing {name : String} {level : Nat} {error : Error}
      (named : request.Names environment name) (levelled : levelOf name = .ok level)
      (undirected : request.Undirected) (unreadable : Unreadable environment error) :
      Interrupted environment stamp request disk log error (log.renewed stamp level)
  | making {name directory : String} {level : Nat} {fault : Fault}
      (named : request.Names environment name) (levelled : levelOf name = .ok level)
      (directed : request.Directs environment (some directory))
      (unmade : disk.making directory = some fault) :
      Interrupted environment stamp request disk log (.fault fault) (log.renewed stamp level)
  | opening {name directory : String} {level : Nat} {fault : Fault}
      (named : request.Names environment name) (levelled : levelOf name = .ok level)
      (directed : request.Directs environment (some directory))
      (made : disk.making directory = none)
      (unopened : disk.opening (Directory.entry directory (fileName stamp)) = some fault) :
      Interrupted environment stamp request disk log (.fault fault)
        { log.renewed stamp level with
          file := some (Directory.entry directory (fileName stamp)) }

theorem setup_eq_error :
    (setup environment stamp request disk).result log = (.error error, left) ↔
      Interrupted environment stamp request disk log error left := by
  rw [setup_eq]
  simp only [Step.result_modify_bind, Step.bind_eq_error, levelNameFor_eq_ok, levelNameFor_eq_error,
    levelStep_eq_ok, levelStep_eq_error, directoryFor_eq_ok, directoryFor_eq_error,
    filing_eq_error, (total_listening _ _).not_error, (total_opening _ _).not_error, and_false,
    exists_false, or_false]
  constructor
  · rintro (⟨unnamed, unreadable, rfl⟩ | ⟨name, _, ⟨named, rfl⟩,
      ⟨⟨fault, misnamed, rfl⟩, rfl⟩ | ⟨level, _, ⟨levelled, rfl⟩,
        ⟨undirected, unreadable, rfl⟩ | ⟨_, _, ⟨directed, rfl⟩, directory, fault, rfl, rfl,
          ⟨unmade, rfl⟩ | ⟨made, unopened, rfl⟩⟩⟩⟩)
    · exact .naming unnamed unreadable
    · exact .levelling named misnamed
    · exact .directing named levelled undirected unreadable
    · exact .making named levelled directed unmade
    · exact .opening named levelled directed made unopened
  · intro interrupted
    cases interrupted with
    | naming unnamed unreadable => exact .inl ⟨unnamed, unreadable, rfl⟩
    | levelling named misnamed =>
        exact .inr ⟨_, _, ⟨named, rfl⟩, .inl ⟨⟨_, misnamed, rfl⟩, rfl⟩⟩
    | directing named levelled undirected unreadable =>
        exact .inr ⟨_, _, ⟨named, rfl⟩, .inr ⟨_, _, ⟨levelled, rfl⟩,
          .inl ⟨undirected, unreadable, rfl⟩⟩⟩
    | making named levelled directed unmade =>
        exact .inr ⟨_, _, ⟨named, rfl⟩, .inr ⟨_, _, ⟨levelled, rfl⟩,
          .inr ⟨_, _, ⟨directed, rfl⟩, _, _, rfl, rfl, .inl ⟨unmade, rfl⟩⟩⟩⟩
    | opening named levelled directed made unopened =>
        exact .inr ⟨_, _, ⟨named, rfl⟩, .inr ⟨_, _, ⟨levelled, rfl⟩,
          .inr ⟨_, _, ⟨directed, rfl⟩, _, _, rfl, rfl, .inr ⟨made, unopened, rfl⟩⟩⟩⟩

/-! ### What is lost -/

theorem handlers_ne_nil_emit {log : Log} (filled : log.handlers ≠ []) (logger : String)
    (level : Nat) (message : String) : (log.emit logger level message).handlers ≠ [] := by
  unfold emit
  split
  · simpa using filled
  · exact filled

theorem handlers_ne_nil_of_opening {name : String} {file : Option String}
    (opens : (opening stamp name).result log = (.ok file, left)) : left.handlers ≠ [] := by
  have starts {log : Log} (filled : log.handlers ≠ [])
      (goes : (starting stamp name).result log = (.ok file, left)) : left.handlers ≠ [] := by
    cases goes
    have kept : { log with propagate := false }.handlers ≠ [] := filled
    exact handlers_ne_nil_emit kept _ _ _
  rw [opening, Step.result_bind_of_ok (Step.result_get log)] at opens
  dsimp only at opens
  split at opens
  case isTrue empty =>
      rw [addHandler, Step.result_modify_bind] at opens
      exact starts (by simp) opens
  case isFalse filled => exact starts (by simpa using filled) opens

/-- A log in use, set up, captured, written to and read, with no setup that failed. -/
inductive Intact : Log → Prop
  | fresh : Intact {}
  | setup {environment : Environment} {stamp : Stamp} {request : Request} {disk : Disk}
      {log left : Log} {file : Option String} (intact : Intact log)
      (goes : (setup environment stamp request disk).result log = (.ok file, left)) : Intact left
  | emit {log : Log} (intact : Intact log) (logger : String) (level : Nat) (message : String) :
      Intact (log.emit logger level message)
  | capture {log : Log} (intact : Intact log) (level : Nat) : Intact (log.capture level)
  | forget {log : Log} (intact : Intact log) : Intact log.forget

theorem Intact.handlers_ne_nil {log : Log} (intact : log.Intact) : log.handlers ≠ [] := by
  induction intact with
  | fresh => exact List.cons_ne_nil _ _
  | setup _ goes _ =>
      rw [setup_eq] at goes
      simp only [Step.bind_eq_ok] at goes
      obtain ⟨_, _, -, _, _, -, _, _, -, _, _, -, _, _, -, _, _, -, _, _, -, _, _, -, opens⟩ := goes
      exact handlers_ne_nil_of_opening opens
  | emit _ logger level message induction =>
      exact handlers_ne_nil_emit induction logger level message
  | capture _ level _ => simp [Log.capture]
  | forget _ induction => simpa [Log.forget] using induction

/-- The later log has the handlers, marks, level and file of the earlier one. -/
structure Keeps (log left : Log) : Prop where
  handlers : left.handlers = log.handlers
  marks : left.marks = log.marks
  level : left.level = log.level
  file : left.file = log.file

theorem Interrupted.keeps_iff
    (interrupted : Interrupted environment stamp request disk log error left)
    (filled : log.handlers ≠ []) :
    log.Keeps left ↔ request.Unnamed environment ∧ Unreadable environment error := by
  constructor
  · intro keeps
    cases interrupted with
    | naming unnamed unreadable => exact ⟨unnamed, unreadable⟩
    | levelling | directing | making | opening => exact absurd keeps.handlers.symm filled
  · rintro ⟨unnamed, complaints, unreadable, rfl⟩
    -- With nothing to name the level, the later stages are not reached.
    have nameless {name : String} : ¬ request.Names environment name := by
      intro named
      cases named with
      | asked given => exact nomatch unnamed.1.symm.trans given
      | bound _ bound => exact nomatch unnamed.2.symm.trans bound
      | settled _ readable => exact nomatch unreadable.symm.trans readable
    cases interrupted with
    | naming => exact ⟨rfl, rfl, rfl, rfl⟩
    | directing named => exact absurd named nameless

/-- The ways in which a setup fails and what it leaves then.  The session is always the new
one; the handlers survive only if it is the name of the level that cannot be found. -/
theorem setup_fails_iff (environment : Environment) (stamp : Stamp) (request : Request)
    (disk : Disk) (log left : Log) (error : Error) :
    ((setup environment stamp request disk).result log = (.error error, left) ↔
      Interrupted environment stamp request disk log error left) ∧
    (Interrupted environment stamp request disk log error left →
      left.session = some stamp.session ∧ left.propagate = log.propagate ∧
        (log.Intact →
          (log.Keeps left ↔ request.Unnamed environment ∧ Unreadable environment error))) := by
  refine ⟨setup_eq_error, fun interrupted => ⟨?session, ?propagate, fun intact => ?keeps⟩⟩
  case session => cases interrupted <;> rfl
  case propagate => cases interrupted <;> rfl
  case keeps => exact interrupted.keeps_iff intact.handlers_ne_nil

theorem setup_fails_iff_of_misnomer :
    let stamp : Stamp := ⟨"0a1b2c", "20240102_030405"⟩
    let request : Request := { level := some "basic_format" }
    let left : Log := { handlers := [], session := some "0a1b2c" }
    (setup {} stamp request).result {} = (.error (.fault .value), left) ∧
      Intact {} ∧ ¬ Keeps {} left := by
  intro stamp request left
  have named : request.Names {} "basic_format" := .asked rfl
  have interrupted : Interrupted {} stamp request {} {} (.fault .value) left :=
    .levelling named (by decide)
  obtain ⟨fails, leaves⟩ := setup_fails_iff {} stamp request {} {} left (.fault .value)
  refine ⟨fails.mpr interrupted, .fresh, fun keeps => ?_⟩
  obtain ⟨unnamed, -⟩ := ((leaves interrupted).2.2 .fresh).mp keeps
  exact nomatch unnamed.1

/-- A name that is no level's takes the handlers and the session with it. -/
theorem handlers_lost_by_misnomer :
    let log : Log := ({} : Log).capture debug
    (setup {} ⟨"0a1b2c", "20240102_030405"⟩ { level := some "BASIC_FORMAT" }).result log =
      (.error (.fault .value), { log with handlers := [], session := some "0a1b2c" }) ∧
    log.handlers ≠ [] ∧ log.session = none :=
  ⟨rfl, nofun, rfl⟩

end Stages

end Log

end RecordSchema
