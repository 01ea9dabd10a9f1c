import RecordSchema.Proofs.Log.Setup
import RecordSchema.Proofs.Session.Emitting

namespace RecordSchema

/-! Logging observes and never influences.  Runs that differ in their setups of the log answer
alike, and the log of a run is settled by the last setup and the records emitted since. -/

namespace Log

/-- The lines of the records that are the package's own. -/
def Stamp.lines (stamp : Stamp) (records : List Record) : List Line :=
  (records.filter (fun record => isOwn record.logger)).map (fun record =>
    ⟨record.level, stamp.mark record.logger, record.logger, record.message⟩)

/-- Every record is one line for every handler. -/
theorem emitAll_written {request : Request} (plain : request.Plain) (stamp : Stamp)
    (lines : List Line) (records : List Record) :
    (request.written stamp lines).emitAll records =
      request.written stamp (lines ++ stamp.lines records) := by
  induction records generalizing lines with
  | nil => rw [emitAll, List.foldl_nil, Stamp.lines, List.filter_nil, List.map_nil, List.append_nil]
  | cons record rest induction =>
      rw [emitAll, List.foldl_cons, emit_written plain]
      by_cases own : isOwn record.logger = true
      · rw [if_pos own]
        refine (induction _).trans ?_
        simp [Stamp.lines, own]
      · rw [if_neg own]
        refine (induction _).trans ?_
        simp [Stamp.lines, own]

end Log

/-! ### Worlds that differ in their logs -/

def World.withLog (world : World) (log : Log) : World :=
  { world with session := world.session.withLog log }

namespace World

@[simp] theorem withLog_withLog (world : World) (log later : Log) :
    (world.withLog log).withLog later = world.withLog later := rfl

@[simp] theorem withLog_log (world : World) : world.withLog world.session.log = world := rfl

@[simp] theorem log_withLog (world : World) (log : Log) :
    (world.withLog log).session.log = log := rfl

@[simp] theorem registry_withLog (world : World) (log : Log) (which : Option Nat) :
    (world.withLog log).registry which = world.registry which := by
  cases which <;> rfl

end World

namespace Command

/-- The command sets up the log. -/
def isSetup : Command → Bool
  | .setup .. => true
  | _ => false

/-- The command, with a level that lets everything through if it sets up the log. -/
def verbose : Command → Command
  | .setup stamp request => .setup stamp request.verbose
  | command => command

theorem eq_setup {command : Command} (sets : command.isSetup = true) :
    ∃ stamp request, command = .setup stamp request := by
  cases command with
  | setup stamp request => exact ⟨stamp, request, rfl⟩
  | _ => exact absurd sets Bool.false_ne_true

theorem verbose_of_ordinary {command : Command} (ordinary : command.isSetup = false) :
    command.verbose = command := by
  cases command with
  | setup stamp request => exact Bool.noConfusion ordinary
  | _ => rfl

theorem map_verbose {commands : List Command}
    (ordinary : ∀ command ∈ commands, command.isSetup = false) :
    commands.map verbose = commands := by
  refine (List.map_congr_left (fun command among => ?_)).trans (List.map_id commands)
  exact verbose_of_ordinary (ordinary command among)

variable {catalogue : Catalogue}

/-- What a command answers, leaves and emits does not depend on the log, unless it sets it up. -/
theorem run_withLog (emits : Discipline.emitting.Keeps catalogue) {command : Command}
    (ordinary : command.isSetup = false) (world : World) :
    ∃ records, ∀ log, command.run catalogue (world.withLog log) =
      ((command.run catalogue world).1,
        (command.run catalogue world).2.withLog (log.emitAll records)) := by
  cases command with
  | task work =>
      obtain ⟨records, emitted⟩ := work.keeps Discipline.emitting (fun _ => emits)
        world.registries world.session
      refine ⟨records, fun log => Prod.ext (emitted log).1 ?_⟩
      exact congrArg (fun session => { world with session }) (emitted log).2
  | registry which call =>
      obtain ⟨records, emitted⟩ := call.keeps Discipline.emitting.toDiscipline
        (world.registry which) world.session
      refine ⟨records, fun log => ?_⟩
      obtain ⟨outcome, after⟩ := emitted log
      have left : (world.withLog log).perform (call.action (world.registry which)) =
          (world.perform (call.action (world.registry which))).withLog (log.emitAll records) :=
        congrArg (fun session => { world with session }) after
      have asked : (world.withLog log).session = world.session.withLog log := rfl
      simp only [run, World.registry_withLog, asked, outcome, left]
      cases (call.action (world.registry which)).outcome world.session with
      | ok result => cases which <;> rfl
      | error error => rfl
  | setup stamp request => exact Bool.noConfusion ordinary

/-- A setup touches nothing but the log. -/
theorem setup_withLog (stamp : Log.Stamp) (request : Log.Request) (world : World) :
    ∃ log, (Command.run catalogue world (.setup stamp request)).2 = world.withLog log :=
  ⟨_, rfl⟩

/-- A plain setup succeeds, and what the log was before makes no difference. -/
theorem run_setup {request : Log.Request} (plain : request.Plain) (stamp : Log.Stamp)
    (world : World) :
    Command.run catalogue world (.setup stamp request) =
      (.ok (.file (request.written stamp [request.start stamp]).file),
        world.withLog (request.written stamp [request.start stamp])) := by
  simp only [run, Log.setup_plain plain]
  rfl

end Command

/-! ### Runs -/

namespace World

variable {catalogue : Catalogue} (emits : Discipline.emitting.Keeps catalogue)
include emits

/-- What a run without setups answers, leaves and emits does not depend on the log. -/
theorem run_withLog {commands : List Command}
    (ordinary : ∀ command ∈ commands, command.isSetup = false) (world : World) :
    ∃ records, ∀ log,
      (world.withLog log).transcript catalogue commands = world.transcript catalogue commands ∧
      (world.withLog log).run catalogue commands =
        (world.run catalogue commands).withLog (log.emitAll records) := by
  induction commands generalizing world with
  | nil => exact ⟨[], fun _ => ⟨rfl, rfl⟩⟩
  | cons command rest induction =>
      obtain ⟨records, here⟩ :=
        Command.run_withLog emits (ordinary command List.mem_cons_self) world
      obtain ⟨later, after⟩ := induction
        (fun other among => ordinary other (List.mem_cons_of_mem _ among))
        (command.run catalogue world).2
      refine ⟨records ++ later, fun log => ?_⟩
      obtain ⟨answers, left⟩ := after (log.emitAll records)
      rw [transcript, transcript, run_cons, run_cons, here, Log.emitAll_append]
      exact ⟨congrArg _ answers, left⟩

/-- Without the setups, all else answers the same and leaves the same but for the log. -/
theorem run_without_setups (commands : List Command) (world : World) (log : Log) :
    (world.transcript catalogue commands).filter (fun entry => !entry.1.isSetup) =
        (world.withLog log).transcript catalogue
          (commands.filter (fun command => !command.isSetup)) ∧
      ∃ later, world.run catalogue commands =
        ((world.withLog log).run catalogue
          (commands.filter (fun command => !command.isSetup))).withLog later := by
  induction commands generalizing world log with
  | nil => exact ⟨rfl, world.session.log, rfl⟩
  | cons command rest induction =>
      rw [transcript, run_cons]
      cases setup : command.isSetup with
      | true =>
          obtain ⟨between, left⟩ : ∃ between,
              (command.run catalogue world).2 = world.withLog between := by
            obtain ⟨stamp, request, rfl⟩ := Command.eq_setup setup
            exact Command.setup_withLog stamp request world
          rw [List.filter_cons_of_neg (by simp [setup]), List.filter_cons_of_neg (by simp [setup]),
            left]
          exact induction (world.withLog between) log
      | false =>
          obtain ⟨records, here⟩ := Command.run_withLog emits setup world
          rw [List.filter_cons_of_pos (by simp [setup]), List.filter_cons_of_pos (by simp [setup]),
            transcript, run_cons, here]
          obtain ⟨answers, later⟩ := induction (command.run catalogue world).2
            (log.emitAll records)
          exact ⟨congrArg _ answers, later⟩

/-- With levels that let everything through, a run answers the same and leaves the same but for
the log. -/
theorem run_verbose {commands : List Command}
    (plain : ∀ stamp request, .setup stamp request ∈ commands → request.Plain) (world : World)
    (log : Log) :
    ((world.withLog log).transcript catalogue (commands.map Command.verbose)).map Prod.snd =
        (world.transcript catalogue commands).map Prod.snd ∧
      ∃ later, (world.withLog log).run catalogue (commands.map Command.verbose) =
        (world.run catalogue commands).withLog later := by
  induction commands generalizing world log with
  | nil => exact ⟨rfl, log, rfl⟩
  | cons command rest induction =>
      have others := induction (fun stamp request among =>
        plain stamp request (List.mem_cons_of_mem _ among))
      rw [List.map_cons, transcript, transcript, run_cons, run_cons, List.map_cons, List.map_cons]
      cases setup : command.isSetup with
      | true =>
          obtain ⟨stamp, request, rfl⟩ := Command.eq_setup setup
          have given := plain stamp request List.mem_cons_self
          rw [Command.verbose, Command.run_setup given, Command.run_setup given.verbose]
          obtain ⟨answers, later⟩ := others
            (world.withLog (request.written stamp [request.start stamp]))
            (request.verbose.written stamp [request.verbose.start stamp])
          exact ⟨congrArg _ answers, later⟩
      | false =>
          obtain ⟨records, here⟩ := Command.run_withLog emits setup world
          rw [Command.verbose_of_ordinary setup, here]
          obtain ⟨answers, later⟩ := others (command.run catalogue world).2 (log.emitAll records)
          exact ⟨congrArg _ answers, later⟩

omit emits in
theorem setups_succeed {commands : List Command}
    (plain : ∀ stamp request, .setup stamp request ∈ commands → request.Plain) (world : World)
    {stamp : Log.Stamp} {request : Log.Request} {answer : Except Error Answer}
    (among : (Command.setup stamp request, answer) ∈ world.transcript catalogue commands) :
    ∃ path, answer = .ok (.file path) := by
  induction commands generalizing world with
  | nil => exact nomatch among
  | cons command rest induction =>
      rw [transcript] at among
      rcases List.mem_cons.mp among with here | later
      · obtain ⟨rfl, rfl⟩ := Prod.mk.inj here
        rw [Command.run_setup (plain stamp request List.mem_cons_self)]
        exact ⟨_, rfl⟩
      · exact induction (fun stamp request among =>
          plain stamp request (List.mem_cons_of_mem _ among)) _ later

omit emits in
theorem run_setup {request : Log.Request} (plain : request.Plain) (stamp : Log.Stamp)
    (calls : List Command) (world : World) :
    world.run catalogue (.setup stamp request :: calls) =
      (world.withLog (request.written stamp [request.start stamp])).run catalogue calls := by
  rw [run_cons, Command.run_setup plain]

omit emits in
/-- After a plain setup the log is that of the setup, with the line that starts the session and
with what the calls emit. -/
theorem log_run_setup {request : Log.Request} (plain : request.Plain) (stamp : Log.Stamp)
    {calls : List Command} {world : World} {records : List Log.Record}
    (emitted : ∀ log, ((world.withLog log).run catalogue calls).session.log =
      log.emitAll records) :
    (world.run catalogue (.setup stamp request :: calls)).session.log =
      request.written stamp (request.start stamp :: stamp.lines records) := by
  rw [run_setup plain, emitted, Log.emitAll_written plain, List.singleton_append]

/-- Whatever setups of the log are strewn in, they succeed and all else answers as without them,
also if every level lets everything through.  The run leaves the same as if the last setup had
been the only one, with any log at first.  The handlers of that setup have been handed the line
that starts the session and then every record that the calls emit, once; with a level that lets
everything through they keep the same lines, and those less severe than the level. -/
theorem logging_observes_only (world : World) {commands : List Command}
    (plain : ∀ stamp request, .setup stamp request ∈ commands → request.Plain) :
    let others := List.filter (fun command => !command.isSetup)
    let verbose := List.map Command.verbose
    (∀ stamp request answer, (Command.setup stamp request, answer) ∈
        world.transcript catalogue commands → ∃ path, answer = .ok (.file path)) ∧
    (world.transcript catalogue commands).filter (fun entry => !entry.1.isSetup) =
      world.transcript catalogue (others commands) ∧
    (world.transcript catalogue (verbose commands)).map Prod.snd =
      (world.transcript catalogue commands).map Prod.snd ∧
    ∀ before stamp request calls, commands = before ++ .setup stamp request :: calls →
      (∀ command ∈ calls, command.isSetup = false) →
      (∀ log, world.run catalogue commands =
        (world.withLog log).run catalogue (others before ++ .setup stamp request :: calls)) ∧
      ∃ records,
        (∀ log, (((world.run catalogue (before ++ [.setup stamp request])).withLog log).run
          catalogue calls).session.log = log.emitAll records) ∧
        (world.run catalogue commands).session.log =
          request.written stamp (request.start stamp :: stamp.lines records) ∧
        (world.run catalogue (verbose commands)).session.log =
          request.verbose.written stamp
            (request.verbose.start stamp :: stamp.lines records) ∧
        ∀ kind, kind ≠ .silent → ∃ kept,
          (request.verbose.handler (request.verbose.start stamp :: stamp.lines records)
            kind).lines = request.verbose.start stamp :: kept ∧
          (request.handler (request.start stamp :: stamp.lines records) kind).lines =
            (request.start stamp :: kept).filter (fun line => request.severity ≤ line.level) := by
  intro others verbose
  refine ⟨fun _ _ _ among => setups_succeed plain world among,
    (run_without_setups emits commands world world.session.log).1,
    (run_verbose emits plain world world.session.log).1, ?_⟩
  rintro before stamp request calls rfl ordinary
  have given : request.Plain := plain stamp request (by simp)
  obtain ⟨records, unlogged⟩ := run_withLog emits ordinary (world.run catalogue before)
  have emitted (log : Log) : (((world.run catalogue before).withLog log).run catalogue
      calls).session.log = log.emitAll records := by
    rw [(unlogged log).2, log_withLog]
  refine ⟨fun log => ?_, records, fun log => ?_, ?_, ?_, fun kind => Log.handler_verbose given _⟩
  · obtain ⟨later, left⟩ := (run_without_setups emits before world log).2
    rw [run_append, run_append, run_setup given, run_setup given, left, withLog_withLog]
  · rw [run_append, run_setup given, run_nil, withLog_withLog, emitted]
  · rw [run_append, log_run_setup given stamp emitted]
  · obtain ⟨later, between⟩ := (run_verbose emits (fun stamp request among =>
      plain stamp request (List.mem_append_left _ among)) world world.session.log).2
    rw [withLog_log] at between
    change (world.run catalogue ((before ++ .setup stamp request :: calls).map
      Command.verbose)).session.log = _
    rw [List.map_append, List.map_cons, Command.map_verbose ordinary, run_append, between,
      Command.verbose]
    exact log_run_setup given.verbose stamp emitted

omit emits in
/-- Two setups, the second of which does not let the resolution of a reference through. -/
theorem logging_observes_only_around_resolution :
    let catalogue : Catalogue := fun _ => .delegating
    let spec : ProviderClass := { key := "Spec", typeName := "Spec" }
    let second : Log.Request := { level := some "Warning", logDir := some "logs", console := true }
    let calls : List Command := [.task (.convert (.providerClass spec) (.int 1)),
      .registry none (.unregister "spec")]
    let commands : List Command := .setup ⟨"a", "1"⟩ { level := some "debug" } ::
      .registry none (.register "spec" (.providerClass spec) false) ::
        .setup ⟨"b", "2"⟩ second :: calls
    (World.transcript catalogue {} commands).filter (fun entry => !entry.1.isSetup) =
        World.transcript catalogue {}
          (.registry none (.register "spec" (.providerClass spec) false) :: calls) ∧
      ∃ records, (World.run catalogue {} commands).session.log =
        second.written ⟨"b", "2"⟩
          (second.start ⟨"b", "2"⟩ :: Log.Stamp.lines ⟨"b", "2"⟩ records) := by
  intro catalogue spec second calls commands
  have plain : ∀ stamp request, .setup stamp request ∈ commands → request.Plain := by
    intro stamp request among
    simp only [commands, calls, List.mem_cons, List.not_mem_nil, or_false, reduceCtorEq,
      false_or, Command.setup.injEq] at among
    rcases among with ⟨-, rfl⟩ | ⟨-, rfl⟩
    · exact ⟨⟨"debug", rfl, by decide⟩, rfl⟩
    · exact ⟨⟨"Warning", rfl, by decide⟩, rfl⟩
  obtain ⟨-, answers, -, last⟩ :=
    logging_observes_only Discipline.emitting.keeps_delegating {} plain
  obtain ⟨-, records, -, written, -⟩ := last [_, _] ⟨"b", "2"⟩ second calls rfl (by
    intro command among
    simp only [calls, List.mem_cons, List.not_mem_nil, or_false] at among
    rcases among with rfl | rfl <;> rfl)
  exact ⟨answers, records, written⟩

end World

end RecordSchema
