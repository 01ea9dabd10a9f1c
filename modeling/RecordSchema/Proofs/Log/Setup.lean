import Mathlib.Data.List.Basic
import RecordSchema.Log.Setup

namespace RecordSchema

/-! What a setup of the log leaves.  With the level given by name and no default directory asked
for, the log is the one that the request describes, whatever it was before. -/

namespace Log

/-- The names of levels that are meant for setting up. -/
def plainNames : List String := ["DEBUG", "INFO", "WARNING", "ERROR"]

/-- The level is one of the plain ones, by its name in any case, and no default directory is
asked for. -/
structure Request.Plain (request : Request) : Prop where
  named : ∃ name, request.level = some name ∧ capitals name ∈ plainNames
  toFile : request.toFile = false

namespace Request

variable (request : Request)

def levelName : String :=
  capitals (request.level.getD "")

/-- The level that the name stands for. -/
def severity : Nat :=
  (levelOfName? request.levelName).getD warning

/-- The kinds of handlers that are asked for; a silent one stands in for none. -/
def kinds : List HandlerKind :=
  if request.logDir.isNone && !request.console then [.silent]
  else (if request.logDir.isSome then [.file] else []) ++
    (if request.console then [.console] else [])

/-- A handler of the request that has been handed the lines: it keeps those of at least the
severity asked for, unless it is silent. -/
def handler (lines : List Line) (kind : HandlerKind) : Handler :=
  if kind = .silent then .ofKind .silent 0
  else ⟨kind, request.severity, lines.filter (fun line => request.severity ≤ line.level)⟩

/-- The log set up by the request, once the lines have been handed to its handlers. -/
def written (stamp : Stamp) (lines : List Line) : Log where
  level := request.severity
  marks := [stamp.session]
  handlers := request.kinds.map (request.handler lines)
  propagate := false
  session := some stamp.session
  file := request.logDir.map (fun directory => Directory.entry directory (fileName stamp))

/-- The request for the same handlers, with a level that lets everything through. -/
def verbose : Request :=
  { request with level := some "DEBUG" }

/-- The line that starts the session of the log. -/
def start (stamp : Stamp) : Line :=
  ⟨info, stamp.session, rootName,
    s!"simpleschema logging session {stamp.session} started (level {request.levelName})"⟩

end Request

/-- The mark of a logger's lines. -/
def Stamp.mark (stamp : Stamp) (logger : String) : String :=
  if logger = rootName then stamp.session else sessionText (some stamp.session)

variable {request : Request} {stamp : Stamp}

namespace Request.Plain

theorem severity_mem (plain : request.Plain) : request.severity ∈ [10, 20, 30, 40] := by
  obtain ⟨name, given, known⟩ := plain.named
  have named : request.levelName = capitals name := by rw [levelName, given, Option.getD_some]
  rw [severity, named]
  revert known
  generalize capitals name = text
  intro known
  simp only [plainNames, List.mem_cons, List.not_mem_nil, or_false] at known
  rcases known with rfl | rfl | rfl | rfl <;> decide

theorem debug_le (plain : request.Plain) : debug ≤ request.severity := by
  have known := plain.severity_mem
  simp only [List.mem_cons, List.not_mem_nil, or_false] at known
  rw [debug]
  omega

theorem threshold (plain : request.Plain) (lines : List Line) :
    (request.written stamp lines).threshold = request.severity := by
  have least := plain.debug_le
  rw [debug] at least
  rw [Log.threshold]
  exact if_neg (show ¬ request.severity = 0 by omega)

theorem levelOf_eq (plain : request.Plain) {name : String} (given : request.level = some name) :
    levelOf name = .ok request.severity := by
  obtain ⟨other, same, known⟩ := plain.named
  cases given.symm.trans same
  have named : request.levelName = capitals name := by rw [levelName, given, Option.getD_some]
  rw [levelOf, severity, named]
  revert known
  generalize capitals name = text
  intro known
  simp only [plainNames, List.mem_cons, List.not_mem_nil, or_false] at known
  rcases known with rfl | rfl | rfl | rfl <;> rfl

protected theorem verbose (plain : request.Plain) : request.verbose.Plain where
  named := ⟨"DEBUG", rfl, by decide⟩
  toFile := plain.toFile

end Request.Plain

theorem markOf_written (lines : List Line) (logger : String) :
    (request.written stamp lines).markOf logger = stamp.mark logger := by
  rw [markOf, Stamp.mark]
  by_cases root : logger = rootName <;> simp [root, Request.written]

theorem accept_handler (lines : List Line) (kind : HandlerKind) (line : Line) :
    (request.handler lines kind).accept line = request.handler (lines ++ [line]) kind := by
  by_cases silent : kind = .silent
  · simp [Request.handler, silent, Handler.accept, Handler.ofKind]
  · by_cases severe : request.severity ≤ line.level <;>
      simp [Request.handler, silent, Handler.accept, severe, List.filter_append]

/-- A line that is not severe enough makes no difference. -/
theorem handler_append_of_lt (lines : List Line) {line : Line}
    (mild : ¬ request.severity ≤ line.level) :
    request.handler (lines ++ [line]) = request.handler lines := by
  funext kind
  simp [Request.handler, List.filter_append, mild]

/-- A record of the package is one more line for every handler. -/
theorem emit_written (plain : request.Plain) (lines : List Line) (logger : String) (level : Nat)
    (message : String) :
    (request.written stamp lines).emit logger level message =
      if isOwn logger then
        request.written stamp (lines ++ [⟨level, stamp.mark logger, logger, message⟩])
      else request.written stamp lines := by
  by_cases own : isOwn logger = true
  · rw [if_pos own, emit, plain.threshold, markOf_written]
    by_cases severe : request.severity ≤ level
    · rw [if_pos ⟨own, severe⟩]
      simp only [Request.written, List.map_map, Function.comp_def, accept_handler]
    · rw [if_neg (fun both => severe both.2), Request.written, Request.written,
        handler_append_of_lt lines severe]
  · rw [if_neg own, emit, if_neg (fun both => own both.1)]

theorem setup_plain (plain : request.Plain) (environment : Environment) (stamp : Stamp)
    (log : Log) :
    (setup environment stamp request).run.run log =
      (.ok (request.written stamp [request.start stamp]).file,
        request.written stamp [request.start stamp]) := by
  obtain ⟨name, given, -⟩ := plain.named
  have level := plain.levelOf_eq given
  have absent := plain.toFile
  have last : (request.written stamp []).emit rootName info (request.start stamp).message =
      request.written stamp [request.start stamp] :=
    emit_written plain [] rootName info _
  obtain ⟨asked, directory, console, toFile⟩ := request
  subst given
  subst absent
  rw [← last, setup]
  simp only [levelNameFor, pure_bind, level]
  -- What the last step hands over is the same on both sides, so it need not be looked into.
  generalize Log.emit = hand
  cases directory <;> cases console <;> rfl

/-- A handler that lets everything through keeps the same lines and those that are less severe;
only the line that starts the session names another level. -/
theorem handler_verbose (plain : request.Plain) (lines : List Line) {kind : HandlerKind}
    (speaks : kind ≠ .silent) :
    ∃ kept, (request.verbose.handler (request.verbose.start stamp :: lines) kind).lines =
        request.verbose.start stamp :: kept ∧
      (request.handler (request.start stamp :: lines) kind).lines =
        (request.start stamp :: kept).filter (fun line => request.severity ≤ line.level) := by
  have least := plain.debug_le
  have all : request.verbose.severity = debug := by
    change (levelOfName? (capitals "DEBUG")).getD warning = debug
    decide
  have starts : decide (debug ≤ (request.verbose.start stamp).level) = true := by
    change decide (debug ≤ info) = true
    decide
  refine ⟨lines.filter (fun line => debug ≤ line.level), ?_, ?_⟩
  · simp only [Request.handler, if_neg speaks, all, List.filter_cons]
    exact if_pos starts
  · have again (line : Line) : (decide (request.severity ≤ line.level) &&
        decide (debug ≤ line.level)) = decide (request.severity ≤ line.level) := by
      rw [Bool.and_eq_left_iff_imp, decide_eq_true_iff, decide_eq_true_iff]
      exact Nat.le_trans least
    simp only [Request.handler, if_neg speaks, List.filter_cons, List.filter_filter, again]

end Log

end RecordSchema
