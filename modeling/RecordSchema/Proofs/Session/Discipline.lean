import RecordSchema.Proofs.Provider.Growth
import RecordSchema.Proofs.Session.Conduct

namespace RecordSchema

/-! Disciplines of actions.  What holds of the steps that the library is made of, and of steps
one after the other, holds of all that it does. -/

/-- A property of actions that the steps of reading a description have.  Of the session, they read
the policy for null only, and they make objects only: those that classes share, and those in
snapshots. -/
structure Reading where
  holds : {α : Type} → Action α → Prop
  value : ∀ {α : Type} (value : α), holds (pure value : Action α)
  fail : ∀ {α : Type} (cause : DefinitionError), holds (Action.fail cause : Action α)
  fault : ∀ {α : Type} (fault : Fault), holds (Action.fault fault : Action α)
  bind : ∀ {α β : Type} {action : Action α} {next : α → Action β}, holds action →
    (∀ value, holds (next value)) → holds (action >>= next)
  policy : holds Action.nullableAny
  share : ∀ c : ProviderClass, holds (modifyGet (fun session =>
    let shared := session.instances.share c
    (Value.provider c shared.1, { session with instances := shared.2 })) : Action Value)
  snapshot : ∀ (options : Entries) (kind : MapKind), holds (Action.copying (options.snapshot kind))

/-- A property of actions that the steps of reading and of compiling have.  Of the session,
the steps read the policy for null and the registry only, and they make objects and write to
the log only. -/
structure Discipline where
  holds : {α : Type} → Action α → Prop
  value : ∀ {α : Type} (value : α), holds (pure value : Action α)
  fail : ∀ {α : Type} (cause : DefinitionError), holds (Action.fail cause : Action α)
  fault : ∀ {α : Type} (fault : Fault), holds (Action.fault fault : Action α)
  bind : ∀ {α β : Type} {action : Action α} {next : α → Action β}, holds action →
    (∀ value, holds (next value)) → holds (action >>= next)
  policy : holds Action.nullableAny
  names : ∀ {α : Type} {next : Registry → Action α}, (∀ registry, holds (next registry)) →
    holds (do next (← get).registry)
  share : ∀ c : ProviderClass, holds (modifyGet (fun session =>
    let shared := session.instances.share c
    (Value.provider c shared.1, { session with instances := shared.2 })) : Action Value)
  copying : ∀ {α : Type} {step : Copying α}, step.Allocates → holds (Action.copying step)
  write : ∀ logger level message, holds (Action.write logger level message)

namespace Reading

variable (reading : Reading)

theorem accept (label : String) : (check : Checked α) →
    reading.holds (Action.accept label check)
  | .accepted value => reading.value value
  | .refused _ => reading.fail _

theorem failShowing (shown : Value) (cause : DefinitionError) :
    reading.holds (Action.failShowing shown cause : Action α) := by
  unfold Action.failShowing Error.showing
  split
  · exact reading.fail cause
  · exact reading.fault .value

end Reading

namespace Discipline

variable (discipline : Discipline)

/-- The part of a discipline that descriptions are read by. -/
def reading : Reading where
  holds := discipline.holds
  value := discipline.value
  fail := discipline.fail
  fault := discipline.fault
  bind := discipline.bind
  policy := discipline.policy
  share := discipline.share
  snapshot options kind := discipline.copying (options.snapshot_allocates kind)

theorem accept (label : String) (check : Checked α) :
    discipline.holds (Action.accept label check) :=
  discipline.reading.accept label check

end Discipline

/-- Keeping to a regime is a discipline. -/
def Regime.discipline (regime : Regime) : Discipline where
  holds action := action.Within regime
  value := .pure
  fail := .fail
  fault := .fault
  bind := .bind
  policy := .nullableAny
  names next := .bind .get (fun session => next session.registry)
  share _ := ⟨fun session => regime.makes session _, fun _ _ failed => nomatch failed⟩
  copying _ := .copying _
  write := .write

end RecordSchema
