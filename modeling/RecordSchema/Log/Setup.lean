import RecordSchema.Error
import RecordSchema.Log.Basic
import RecordSchema.Settings.Basic
import RecordSchema.Text.Capital

namespace RecordSchema

/-!
Setting up the log for a new session.  `Log.setup` goes step by step, and a step that
fails leaves the effect of those before it.
-/

namespace Log

structure Stamp where
  session : String
  time : String
deriving DecidableEq, Repr

structure Request where
  level : Option String := none
  logDir : Option String := none
  console : Bool := false
  toFile : Bool := false
deriving DecidableEq, Repr

/-- What keeps a directory from being made and a file from being opened, by their paths. -/
structure Disk where
  making : String → Option Fault := fun _ => none
  opening : String → Option Fault := fun _ => none

abbrev Step := ExceptT Error (StateM Log)

/-- Names that stand for something else than a level. -/
def misnomers : List (String × Fault) :=
  [("BASIC_FORMAT", .value), ("_STYLES", .type)]

/-- The level that a name stands for in any case; an unknown name means a warning. -/
def levelOf (name : String) : Except Fault Nat :=
  match levelOfName? (capitals name) with
  | some level => .ok level
  | none =>
      match misnomers.find? (fun entry => entry.1 = capitals name) with
      | some entry => .error entry.2
      | none => .ok warning

def settings (environment : Environment) : Step Settings :=
  match Settings.read environment [] with
  | .accepted settings => pure settings
  | .refused complaints => throw (.refused complaints)

/-- The name of the level: the one asked for, else the one that a variable holds, else
the one of the settings. -/
def levelNameFor (environment : Environment) (request : Request) : Step String :=
  match request.level, environment.bindings.get? "SIMPLESCHEMA_LOG_LEVEL" with
  | some name, _ => pure name
  | none, some name => pure name
  | none, none => do
      let settings ← settings environment
      pure (if settings.logLevel.isEmpty then "WARNING" else settings.logLevel)

def fileName (stamp : Stamp) : String :=
  s!"simpleschema_{stamp.time}_{stamp.session}.log"

def directoryFor (environment : Environment) (request : Request) : Step (Option String) :=
  match request.logDir with
  | some directory => pure (some directory)
  | none =>
      if request.toFile then return some (← settings environment).logDir
      else pure none

def addHandler (kind : HandlerKind) (level : Nat) : Step Unit :=
  modify (fun log => { log with handlers := log.handlers ++ [.ofKind kind level] })

/-- Goes on unless something keeps it from that. -/
def attempt : Option Fault → Step Unit
  | none => pure ()
  | some fault => throw (.fault fault)

def setup (environment : Environment) (stamp : Stamp) (request : Request) (disk : Disk := {}) :
    Step (Option String) := do
  modify (fun log => { log with session := some stamp.session })
  let name ← levelNameFor environment request
  modify (fun log => { log with handlers := [], marks := [] })
  let level ← match levelOf name with
    | .ok level => pure level
    | .error fault => throw (.fault fault)
  modify (fun log => { log with level := level, marks := [stamp.session], file := none })
  let directory ← directoryFor environment request
  if let some directory := directory then
    attempt (disk.making directory)
    let file := Directory.entry directory (fileName stamp)
    modify (fun log => { log with file := some file })
    attempt (disk.opening file)
    addHandler .file level
  if request.console then addHandler .console level
  if (← get).handlers.isEmpty then addHandler .silent 0
  modify (fun log => { log with propagate := false })
  modify (fun log => log.emit rootName info
    s!"simpleschema logging session {stamp.session} started (level {capitals name})")
  return (← get).file

end Log

end RecordSchema
