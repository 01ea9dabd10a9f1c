import RecordSchema.Proofs.Session.World

namespace RecordSchema

/-! Calls and the log.  A call hands records to the log, and neither they nor what it answers
depend on the log. -/

/-! ### Records -/

namespace Log

/-- What a logger is asked to write. -/
structure Record where
  logger : String
  level : Nat
  message : String

def emitAll (log : Log) (records : List Record) : Log :=
  records.foldl (fun log record => log.emit record.logger record.level record.message) log

theorem emitAll_append (log : Log) (records later : List Record) :
    log.emitAll (records ++ later) = (log.emitAll records).emitAll later :=
  List.foldl_append

end Log

def Session.withLog (session : Session) (log : Log) : Session :=
  { session with log := log }

@[simp] theorem Session.withLog_log (session : Session) : session.withLog session.log = session :=
  rfl

@[simp] theorem Session.withLog_withLog (session : Session) (log later : Log) :
    (session.withLog log).withLog later = session.withLog later := rfl

/-- In the session the action emits the records, and it does the same whatever the log is. -/
def Action.Emits (action : Action α) (session : Session) (records : List Log.Record) : Prop :=
  ∀ log, action.outcome (session.withLog log) = action.outcome session ∧
    action.after (session.withLog log) = (action.after session).withLog (log.emitAll records)

namespace Action.Emits

variable {session : Session} {records later : List Log.Record}

/-- The action does not look at the log, and does not touch it either. -/
theorem of_unlogged {action : Action α}
    (blind : ∀ log, action.outcome (session.withLog log) = action.outcome session)
    (silent : ∀ log, action.after (session.withLog log) = (action.after session).withLog log) :
    action.Emits session [] :=
  fun log => ⟨blind log, silent log⟩

theorem bind_ok {action : Action α} {next : α → Action β} {value : α}
    (first : action.Emits session records) (given : action.outcome session = .ok value)
    (second : (next value).Emits (action.after session) later) :
    (action >>= next).Emits session (records ++ later) := by
  intro log
  obtain ⟨outcome, after⟩ := first log
  have given' := outcome.trans given
  rw [Action.outcome_bind_of_ok given, Action.outcome_bind_of_ok given',
    Action.after_bind_of_ok given, Action.after_bind_of_ok given', after, Log.emitAll_append]
  exact second _

theorem bind_error {action : Action α} {next : α → Action β} {error : Error}
    (first : action.Emits session records) (failed : action.outcome session = .error error) :
    (action >>= next).Emits session records := by
  intro log
  obtain ⟨outcome, after⟩ := first log
  have failed' := outcome.trans failed
  rw [Action.outcome_bind_of_error failed, Action.outcome_bind_of_error failed',
    Action.after_bind_of_error failed, Action.after_bind_of_error failed', after]
  exact ⟨rfl, rfl⟩

theorem tryCatch_ok {action : Action α} {handle : Error → Action α} {value : α}
    (first : action.Emits session records) (given : action.outcome session = .ok value) :
    (tryCatch action handle).Emits session records := by
  intro log
  obtain ⟨outcome, after⟩ := first log
  rw [Action.outcome_tryCatch, Action.outcome_tryCatch, Action.after_tryCatch,
    Action.after_tryCatch, outcome, given]
  exact ⟨rfl, after⟩

theorem tryCatch_error {action : Action α} {handle : Error → Action α} {error : Error}
    (first : action.Emits session records) (failed : action.outcome session = .error error)
    (second : (handle error).Emits (action.after session) later) :
    (tryCatch action handle).Emits session (records ++ later) := by
  intro log
  obtain ⟨outcome, after⟩ := first log
  rw [Action.outcome_tryCatch, Action.outcome_tryCatch, Action.after_tryCatch,
    Action.after_tryCatch, outcome, failed, after, Log.emitAll_append]
  exact second _

end Action.Emits

namespace Discipline

/-- Records are emitted that do not depend on the log. -/
def emitting : Calling where
  holds action := ∀ session, ∃ records, action.Emits session records
  value _ _ := ⟨[], .of_unlogged (fun _ => rfl) (fun _ => rfl)⟩
  fail _ _ := ⟨[], .of_unlogged (fun _ => rfl) (fun _ => rfl)⟩
  fault _ _ := ⟨[], .of_unlogged (fun _ => rfl) (fun _ => rfl)⟩
  bind {_ _ action _} first second session := by
    obtain ⟨records, emits⟩ := first session
    cases given : action.outcome session with
    | ok value =>
        obtain ⟨later, more⟩ := second value (action.after session)
        exact ⟨records ++ later, emits.bind_ok given more⟩
    | error error => exact ⟨records, emits.bind_error given⟩
  policy _ := ⟨[], .of_unlogged (fun _ => rfl) (fun _ => rfl)⟩
  names rest session := rest session.registry session
  share _ _ := ⟨[], .of_unlogged (fun _ => rfl) (fun _ => rfl)⟩
  copying _ session := by
    refine ⟨[], .of_unlogged (fun log => ?_) (fun log => ?_)⟩
    · rw [Action.outcome_copying, Action.outcome_copying]
      rfl
    · rw [Action.after_copying, Action.after_copying]
      rfl
  write logger level message _ := ⟨[⟨logger, level, message⟩], fun _ => ⟨rfl, rfl⟩⟩
  throw _ _ := ⟨[], .of_unlogged (fun _ => rfl) (fun _ => rfl)⟩
  handle {_ action _} first second session := by
    obtain ⟨records, emits⟩ := first session
    cases given : action.outcome session with
    | ok value => exact ⟨records, emits.tryCatch_ok given⟩
    | error error =>
        obtain ⟨later, more⟩ := second error (action.after session)
        exact ⟨records ++ later, emits.tryCatch_error given more⟩
  settings session := by
    refine ⟨[], .of_unlogged (fun log => ?_) (fun log => ?_)⟩
    · rw [Action.outcome_settings, Action.outcome_settings]
      rfl
    · rw [Action.after_settings, Action.after_settings]
  look capacity _ rest session := rest (session.cache capacity) session
  store _ _ _ := ⟨[], .of_unlogged (fun _ => rfl) (fun _ => rfl)⟩
  forget _ := ⟨[], .of_unlogged (fun _ => rfl) (fun _ => rfl)⟩

end Discipline

end RecordSchema
