namespace RecordSchema

/-!
The log: levels, lines, the handlers that keep lines, and `Log.emit`, which hands a
line to every handler whose level it reaches.
-/

namespace Log

/-- Levels that have a name, by that name; two of them have two names. -/
def levelNames : List (String × Nat) :=
  [("CRITICAL", 50), ("FATAL", 50), ("ERROR", 40), ("WARNING", 30), ("WARN", 30),
    ("INFO", 20), ("DEBUG", 10), ("NOTSET", 0)]

def debug : Nat := 10

def info : Nat := 20

def warning : Nat := 30

def levelOfName? (name : String) : Option Nat :=
  (levelNames.find? (fun entry => entry.1 = name)).map Prod.snd

def levelName (level : Nat) : String :=
  match levelNames.find? (fun entry => entry.2 = level) with
  | some entry => entry.1
  | none => s!"Level {level}"

def padTo (width : Nat) (text : String) : String :=
  text ++ String.ofList (List.replicate (width - text.length) ' ')

def levelColumn (level : Nat) : String :=
  padTo 8 (levelName level)

structure Line where
  level : Nat
  session : String
  logger : String
  message : String
deriving DecidableEq, Repr

inductive HandlerKind where
  | silent
  | file
  | console
  | memory
deriving DecidableEq, Repr

structure Handler where
  kind : HandlerKind
  level : Nat
  lines : List Line
deriving DecidableEq, Repr

def Handler.ofKind (kind : HandlerKind) (level : Nat) : Handler :=
  ⟨kind, level, []⟩

def Handler.accept (handler : Handler) (line : Line) : Handler :=
  if handler.level ≤ line.level ∧ handler.kind ≠ .silent then
    { handler with lines := handler.lines ++ [line] }
  else handler

end Log

/-- The state of the log.  `marks` are the session ids that lines of the root logger are
marked with; the last one holds. -/
structure Log where
  level : Nat := 0
  marks : List String := []
  handlers : List Log.Handler := [.ofKind .silent 0]
  propagate : Bool := true
  session : Option String := none
  file : Option String := none
deriving DecidableEq, Repr

namespace Log

def rootName : String := "simpleschema"

def loggerName (name : String) : String :=
  if rootName.toList.isPrefixOf name.toList then name else rootName ++ "." ++ name

def isOwn (logger : String) : Bool :=
  logger = rootName || (rootName ++ ".").toList.isPrefixOf logger.toList

/-- The least level that is written; a level of its own makes up for an unset one. -/
def threshold (log : Log) : Nat :=
  if log.level = 0 then warning else log.level

def sessionText (session : Option String) : String :=
  match session with
  | some id => if id.isEmpty then "N/A" else id
  | none => "N/A"

def markOf (log : Log) (logger : String) : String :=
  match logger == rootName, log.marks.getLast? with
  | true, some mark => mark
  | _, _ => sessionText log.session

def emit (log : Log) (logger : String) (level : Nat) (message : String) : Log :=
  if isOwn logger ∧ log.threshold ≤ level then
    let line : Line := ⟨level, log.markOf logger, logger, message⟩
    { log with handlers := log.handlers.map (fun handler => handler.accept line) }
  else log

def linesOf (log : Log) (kind : HandlerKind) : List Line :=
  (log.handlers.filter (fun handler => handler.kind = kind)).flatMap Handler.lines

def capture (log : Log) (level : Nat) : Log :=
  { log with level := level, handlers := log.handlers ++ [.ofKind .memory level] }

def forget (log : Log) : Log :=
  { log with
    handlers := log.handlers.map (fun handler =>
      if handler.kind = .memory then { handler with lines := [] } else handler) }

def lineText (line : Line) (number : Nat) : String :=
  s!"{levelColumn line.level} | {line.session} | {line.logger}:{number} | {line.message}"

end Log

end RecordSchema
