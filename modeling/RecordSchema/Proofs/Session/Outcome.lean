import RecordSchema.Session

namespace RecordSchema

namespace Action

/-! What an action gives on a session and what it leaves behind.  Both are computed
step by step: an action that fails ends the run with the session that it left. -/

def outcome (action : Action α) (session : Session) : Except Error α :=
  (action.run.run session).1

def after (action : Action α) (session : Session) : Session :=
  (action.run.run session).2

variable {session : Session}

@[simp] theorem outcome_pure (value : α) :
    (pure value : Action α).outcome session = .ok value := rfl

@[simp] theorem after_pure (value : α) :
    (pure value : Action α).after session = session := rfl

@[simp] theorem outcome_throw (error : Error) :
    (throw error : Action α).outcome session = .error error := rfl

@[simp] theorem after_throw (error : Error) :
    (throw error : Action α).after session = session := rfl

@[simp] theorem outcome_fail (cause : DefinitionError) :
    (fail cause : Action α).outcome session = .error (.definition cause) := rfl

@[simp] theorem after_fail (cause : DefinitionError) :
    (fail cause : Action α).after session = session := rfl

@[simp] theorem outcome_fault (fault : Fault) :
    (Action.fault fault : Action α).outcome session = .error (.fault fault) := rfl

@[simp] theorem after_fault (fault : Fault) :
    (Action.fault fault : Action α).after session = session := rfl

@[simp] theorem outcome_get :
    (get : Action Session).outcome session = .ok session := rfl

@[simp] theorem after_get : (get : Action Session).after session = session := rfl

@[simp] theorem outcome_modify (change : Session → Session) :
    (modify change : Action Unit).outcome session = .ok () := rfl

@[simp] theorem after_modify (change : Session → Session) :
    (modify change : Action Unit).after session = change session := rfl

@[simp] theorem outcome_modifyGet (change : Session → α × Session) :
    (modifyGet change : Action α).outcome session = .ok (change session).1 := rfl

@[simp] theorem after_modifyGet (change : Session → α × Session) :
    (modifyGet change : Action α).after session = (change session).2 := rfl

@[simp] theorem outcome_write (logger : String) (level : Nat) (message : String) :
    (write logger level message).outcome session = .ok () := rfl

@[simp] theorem after_write (logger : String) (level : Nat) (message : String) :
    (write logger level message).after session =
      { session with log := session.log.emit logger level message } := rfl

@[simp] theorem outcome_nullableAny :
    nullableAny.outcome session = .ok session.environment.nullableAny := rfl

@[simp] theorem after_nullableAny : nullableAny.after session = session := rfl

theorem outcome_bind (action : Action α) (next : α → Action β) :
    (action >>= next).outcome session =
      match action.outcome session with
      | .ok value => (next value).outcome (action.after session)
      | .error error => .error error := by
  change (ExceptT.bindCont next (action.outcome session) (action.after session)).1 = _
  cases action.outcome session <;> rfl

theorem after_bind (action : Action α) (next : α → Action β) :
    (action >>= next).after session =
      match action.outcome session with
      | .ok value => (next value).after (action.after session)
      | .error _ => action.after session := by
  change (ExceptT.bindCont next (action.outcome session) (action.after session)).2 = _
  cases action.outcome session <;> rfl

theorem outcome_bind_eq_ok {action : Action α} {next : α → Action β} {result : β} :
    (action >>= next).outcome session = .ok result ↔
      ∃ value, action.outcome session = .ok value ∧
        (next value).outcome (action.after session) = .ok result := by
  rw [outcome_bind]
  cases action.outcome session <;> simp

theorem outcome_bind_of_ok {action : Action α} {next : α → Action β} {value : α}
    (given : action.outcome session = .ok value) :
    (action >>= next).outcome session = (next value).outcome (action.after session) := by
  rw [outcome_bind, given]

theorem after_bind_of_ok {action : Action α} {next : α → Action β} {value : α}
    (given : action.outcome session = .ok value) :
    (action >>= next).after session = (next value).after (action.after session) := by
  rw [after_bind, given]

theorem outcome_bind_of_error {action : Action α} {next : α → Action β} {error : Error}
    (failed : action.outcome session = .error error) :
    (action >>= next).outcome session = .error error := by
  rw [outcome_bind, failed]

theorem after_bind_of_error {action : Action α} {next : α → Action β} {error : Error}
    (failed : action.outcome session = .error error) :
    (action >>= next).after session = action.after session := by
  rw [after_bind, failed]

theorem run_bind_of_ok {action : Action α} {next : α → Action β} {value : α}
    (given : action.outcome session = .ok value) :
    (action >>= next).run.run session = (next value).run.run (action.after session) :=
  Prod.ext (outcome_bind_of_ok given) (after_bind_of_ok given)

theorem run_bind_of_run {action : Action α} {next : α → Action β} {value : α} {later : Session}
    (given : action.run.run session = (.ok value, later)) :
    (action >>= next).run.run session = (next value).run.run later := by
  have outcome : action.outcome session = .ok value := congrArg Prod.fst given
  have left : action.after session = later := congrArg Prod.snd given
  rw [run_bind_of_ok outcome, left]

theorem run_bind_of_error {action : Action α} {next : α → Action β} {error : Error}
    (failed : action.outcome session = .error error) :
    (action >>= next).run.run session = (.error error, action.after session) :=
  Prod.ext (outcome_bind_of_error failed) (after_bind_of_error failed)

theorem outcome_tryCatch (action : Action α) (handle : Error → Action α) :
    (tryCatch action handle).outcome session =
      match action.outcome session with
      | .ok value => .ok value
      | .error error => (handle error).outcome (action.after session) := by
  have parts : action.run.run session =
      (action.outcome session, action.after session) := rfl
  unfold outcome
  rw [ExceptT.run_tryCatch, StateT.run_bind, parts]
  cases action.outcome session <;> rfl

theorem after_tryCatch (action : Action α) (handle : Error → Action α) :
    (tryCatch action handle).after session =
      match action.outcome session with
      | .ok _ => action.after session
      | .error error => (handle error).after (action.after session) := by
  have parts : action.run.run session =
      (action.outcome session, action.after session) := rfl
  unfold after
  rw [ExceptT.run_tryCatch, StateT.run_bind, parts]
  change _ = match action.outcome session with
    | .ok _ => action.after session
    | .error error => (handle error).after (action.after session)
  cases action.outcome session <;> rfl

theorem after_copying (step : Copying α) :
    (copying step).after session =
      { session with instances := (step.run.run session.instances).2 } := by
  unfold copying
  have started : step.run.run session.instances = step.run session.instances := rfl
  rw [after_bind_of_ok outcome_get, after_get, started]
  generalize step.run session.instances = ran
  obtain ⟨result, instances⟩ := ran
  cases result <;> rfl

theorem outcome_copying (step : Copying α) :
    (copying step).outcome session =
      match (step.run.run session.instances).1 with
      | .ok value => .ok value
      | .error fault => .error (.fault fault) := by
  unfold copying
  have started : step.run.run session.instances = step.run session.instances := rfl
  rw [outcome_bind_of_ok outcome_get, after_get, started]
  generalize step.run session.instances = ran
  obtain ⟨result, instances⟩ := ran
  cases result <;> rfl

/-- What follows a copy does not touch the objects. -/
theorem copying_map (step : Copying α) (f : α → β) :
    copying (do return f (← step)) = (do return f (← copying step)) := by
  funext session
  have mapped : (step >>= fun value => pure (f value)).run.run session.instances =
      match step.run.run session.instances with
      | (.ok value, instances) => (.ok (f value), instances)
      | (.error fault, instances) => (.error fault, instances) := by
    change ExceptT.bindCont (fun value => (pure (f value) : Copying β))
      (step.run.run session.instances).1 (step.run.run session.instances).2 = _
    generalize step.run.run session.instances = ran
    obtain ⟨result, instances⟩ := ran
    cases result <;> rfl
  have whole : (copying (do return f (← step))).run.run session =
      ((copying (do return f (← step))).outcome session,
        (copying (do return f (← step))).after session) := rfl
  refine whole.trans ?_
  rw [outcome_copying, after_copying, mapped]
  have parts : (copying step).outcome session = _ := outcome_copying step
  have left : (copying step).after session = _ := after_copying step
  generalize step.run.run session.instances = ran at parts left ⊢
  obtain ⟨result, instances⟩ := ran
  cases result with
  | ok value =>
      refine Eq.trans ?_ (run_bind_of_ok parts).symm
      rw [left]
      rfl
  | error fault =>
      refine Eq.trans ?_ (run_bind_of_error parts).symm
      rw [left]

/-- Errors that the handler passes on need no handler. -/
theorem tryCatch_bind {action : Action α} {next : α → Action β}
    {handle : Error → Action β}
    (passes : ∀ session error, action.outcome session = .error error →
      handle error = throw error) :
    tryCatch (action >>= next) handle = action >>= fun value => tryCatch (next value) handle := by
  funext session
  refine Prod.ext ?_ ?_
  · change (tryCatch (action >>= next) handle).outcome session = outcome _ session
    rw [outcome_tryCatch, outcome_bind, outcome_bind, after_bind]
    cases given : action.outcome session with
    | ok value => exact (outcome_tryCatch _ _).symm
    | error error =>
        dsimp only
        rw [passes session error given]
        rfl
  · change (tryCatch (action >>= next) handle).after session = after _ session
    rw [after_tryCatch, outcome_bind, after_bind, after_bind]
    cases given : action.outcome session with
    | ok value => exact (after_tryCatch _ _).symm
    | error error =>
        dsimp only
        rw [passes session error given]
        rfl

theorem outcome_settings :
    settings.outcome session =
      match Settings.read session.environment [] with
      | .accepted settings => .ok settings
      | .refused complaints => .error (.refused complaints) := by
  change ((match Settings.read session.environment [] with
    | .accepted settings => pure settings
    | .refused complaints => throw (.refused complaints) : Action Settings) session).1 = _
  cases Settings.read session.environment [] <;> rfl

@[simp] theorem after_settings : settings.after session = session := by
  change ((match Settings.read session.environment [] with
    | .accepted settings => pure settings
    | .refused complaints => throw (.refused complaints) : Action Settings) session).2 = _
  cases Settings.read session.environment [] <;> rfl

end Action

end RecordSchema
