import RecordSchema.Proofs.Session.Outcome

namespace RecordSchema

/-! What every run of an action keeps to: how it may change the session, and with which
errors it may fail. -/

/-- Changes of a session and errors.  Making objects, writing to the log and complaining
about a description are always allowed. -/
structure Regime where
  moves : Session → Session → Prop
  allows : Error → Prop
  stays : ∀ session, moves session session
  joins : ∀ {first second third}, moves first second → moves second third → moves first third
  makes : ∀ session instances, moves session { session with instances := instances }
  writes : ∀ session log, moves session { session with log := log }
  definition : ∀ cause, allows (.definition cause)
  fault : ∀ fault, allows (.fault fault)

structure Action.Within (regime : Regime) (action : Action α) : Prop where
  moves : ∀ session, regime.moves session (action.after session)
  allows : ∀ session error, action.outcome session = .error error → regime.allows error

namespace Action.Within

variable {regime : Regime}

protected theorem pure (value : α) : (pure value : Action α).Within regime where
  moves session := regime.stays session
  allows _ _ failed := nomatch failed

protected theorem throw {error : Error} (allowed : regime.allows error) :
    (throw error : Action α).Within regime where
  moves session := regime.stays session
  allows _ _ failed := by
    cases failed
    exact allowed

protected theorem fail (cause : DefinitionError) :
    (Action.fail cause : Action α).Within regime :=
  .throw (regime.definition cause)

protected theorem fault (fault : Fault) : (Action.fault fault : Action α).Within regime :=
  .throw (regime.fault fault)

protected theorem bind {action : Action α} {next : α → Action β}
    (first : action.Within regime) (second : ∀ value, (next value).Within regime) :
    (action >>= next).Within regime where
  moves session := by
    rw [after_bind]
    cases result : action.outcome session with
    | ok value => exact regime.joins (first.moves session) ((second value).moves _)
    | error error => exact first.moves session
  allows session error failed := by
    rw [outcome_bind] at failed
    cases result : action.outcome session with
    | ok value =>
        rw [result] at failed
        exact (second value).allows _ error failed
    | error given =>
        rw [result] at failed
        cases failed
        exact first.allows session _ result

protected theorem get : (get : Action Session).Within regime where
  moves session := regime.stays session
  allows _ _ failed := nomatch failed

protected theorem modify {change : Session → Session}
    (moves : ∀ session, regime.moves session (change session)) :
    (modify change : Action Unit).Within regime where
  moves := moves
  allows _ _ failed := nomatch failed

protected theorem write (logger : String) (level : Nat) (message : String) :
    (write logger level message).Within regime :=
  .modify (fun session => regime.writes session _)

protected theorem nullableAny : nullableAny.Within regime :=
  .bind .get (fun _ => .pure _)

protected theorem copying (step : Copying α) : (copying step).Within regime where
  moves session := by
    rw [after_copying]
    exact regime.makes session _
  allows session error failed := by
    rw [outcome_copying] at failed
    cases result : (step.run.run session.instances).1 with
    | ok value =>
        rw [result] at failed
        exact nomatch failed
    | error fault =>
        rw [result] at failed
        cases failed
        exact regime.fault fault

protected theorem accept (label : String) : (check : Checked α) →
    (accept label check).Within regime
  | .accepted value => .pure value
  | .refused _ => .fail _

/-- Errors that are caught need not be allowed. -/
protected theorem tryCatch {action : Action α} {handle : Error → Action α}
    (moves : ∀ session, regime.moves session (action.after session))
    (caught : ∀ session error, action.outcome session = .error error →
      (handle error).Within regime) :
    (tryCatch action handle).Within regime where
  moves session := by
    rw [after_tryCatch]
    cases result : action.outcome session with
    | ok value => exact moves session
    | error error => exact regime.joins (moves session) ((caught session error result).moves _)
  allows session error failed := by
    rw [outcome_tryCatch] at failed
    cases result : action.outcome session with
    | ok value =>
        rw [result] at failed
        exact nomatch failed
    | error given =>
        rw [result] at failed
        exact (caught session given result).allows _ error failed

end Action.Within

/-- Started where the session meets a condition, an action keeps the condition and gives
only results of a sort. -/
structure Action.Yields (holds : Session → Prop) (action : Action α) (sort : α → Prop) :
    Prop where
  keeps : ∀ session, holds session → holds (action.after session)
  gives : ∀ session value, holds session → action.outcome session = .ok value → sort value

namespace Action.Yields

variable {holds : Session → Prop}

protected theorem pure {value : α} {sort : α → Prop} (given : sort value) :
    (pure value : Action α).Yields holds sort where
  keeps _ kept := kept
  gives _ _ _ result := by
    cases result
    exact given

protected theorem throw (error : Error) (sort : α → Prop) :
    (throw error : Action α).Yields holds sort where
  keeps _ kept := kept
  gives _ _ _ result := nomatch result

protected theorem fail (cause : DefinitionError) (sort : α → Prop) :
    (Action.fail cause : Action α).Yields holds sort :=
  .throw _ sort

protected theorem fault (fault : Fault) (sort : α → Prop) :
    (Action.fault fault : Action α).Yields holds sort :=
  .throw _ sort

protected theorem bind {action : Action α} {next : α → Action β} {middle : α → Prop}
    {sort : β → Prop} (first : action.Yields holds middle)
    (second : ∀ value, middle value → (next value).Yields holds sort) :
    (action >>= next).Yields holds sort where
  keeps session kept := by
    rw [after_bind]
    cases result : action.outcome session with
    | ok value =>
        exact (second value (first.gives session value kept result)).keeps _
          (first.keeps session kept)
    | error error => exact first.keeps session kept
  gives session final kept result := by
    obtain ⟨value, given, last⟩ := outcome_bind_eq_ok.mp result
    exact (second value (first.gives session value kept given)).gives _ final
      (first.keeps session kept) last

protected theorem weaken {action : Action α} {sort wider : α → Prop}
    (given : action.Yields holds sort) (wide : ∀ value, sort value → wider value) :
    action.Yields holds wider where
  keeps := given.keeps
  gives session value kept result := wide value (given.gives session value kept result)

protected theorem tryCatch {action : Action α} {handle : Error → Action α} {sort : α → Prop}
    (given : action.Yields holds sort) (caught : ∀ error, (handle error).Yields holds sort) :
    (tryCatch action handle).Yields holds sort where
  keeps session kept := by
    rw [after_tryCatch]
    cases result : action.outcome session with
    | ok value => exact given.keeps session kept
    | error error => exact (caught error).keeps _ (given.keeps session kept)
  gives session value kept result := by
    rw [outcome_tryCatch] at result
    cases first : action.outcome session with
    | ok other =>
        rw [first] at result
        cases result
        exact given.gives session _ kept first
    | error error =>
        rw [first] at result
        exact (caught error).gives _ value (given.keeps session kept) result

protected theorem anything (action : Action α) :
    action.Yields (fun _ => True) (fun _ => True) :=
  ⟨fun _ _ => trivial, fun _ _ _ _ => trivial⟩

/-- A result is that of some session. -/
protected theorem witnessed {action : Action α} {sort : α → Prop}
    (given : action.Yields holds sort) :
    action.Yields holds (fun value => sort value ∧ ∃ session, action.outcome session = .ok value)
    where
  keeps := given.keeps
  gives session value kept result := ⟨given.gives session value kept result, session, result⟩

/-- A step whose result is not looked at. -/
protected theorem after {action : Action α} {next : α → Action β} {sort : β → Prop}
    (second : ∀ value, (next value).Yields (fun _ => True) sort) :
    (action >>= next).Yields (fun _ => True) sort :=
  .bind (.anything action) (fun value _ => second value)

end Action.Yields

end RecordSchema
