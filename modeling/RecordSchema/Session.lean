import RecordSchema.Document.Cache
import RecordSchema.Log.Basic
import RecordSchema.Provider.Registry
import RecordSchema.Provider.Instances
import RecordSchema.Settings.Basic

namespace RecordSchema

/-!
A session: everything that one call leaves behind for the next.  Actions run on a
session; one that fails keeps what it did before.
-/

structure Session where
  environment : Environment := {}
  registry : Registry := {}
  instances : Instances := {}
  caches : List (Nat × Cache) := []
  log : Log := {}

abbrev Action := ExceptT Error (StateM Session)

namespace Action

def fail (cause : DefinitionError) : Action α :=
  throw (.definition cause)

def fault (fault : Fault) : Action α :=
  throw (.fault fault)

/-- Fails with a message that shows a value. -/
def failShowing (shown : Value) (cause : DefinitionError) : Action α :=
  throw (.showing shown cause)

def copying (step : Copying α) : Action α := do
  let session ← get
  let (result, instances) := step.run session.instances
  set { session with instances := instances }
  match result with
  | .ok value => pure value
  | .error fault => Action.fault fault

def accept (label : String) (check : Checked α) : Action α :=
  match check with
  | .accepted value => pure value
  | .refused complaints => fail (.refused label complaints)

def write (logger : String) (level : Nat) (message : String) : Action Unit :=
  modify (fun session => { session with log := session.log.emit logger level message })

def nullableAny : Action NullableAny :=
  return (← get).environment.nullableAny

def settings : Action Settings := do
  match Settings.read (← get).environment [] with
  | .accepted settings => pure settings
  | .refused complaints => throw (.refused complaints)

end Action

end RecordSchema
