import RecordSchema.Number.Decimal
import RecordSchema.Options.Reading
import RecordSchema.Settings.Environment

namespace RecordSchema

/-!
Settings: the policy for a nullable `any`, the size of the compile cache, the level of
the log, and the directories.  Arguments win over variables of the environment, those over
assigned ones, and those over the defaults.
-/

structure Settings where
  allowNullableAny : Bool
  compileCacheSize : Nat
  logLevel : String
  homeDir : String
deriving DecidableEq, Repr

namespace Directory

def parts (path : String) : List String :=
  (path.splitOn "/").filter (fun part => part ≠ "" && part ≠ ".")

def root (path : String) : String :=
  match path.toList with
  | ['/', '/'] => "//"
  | '/' :: '/' :: c :: _ => if c = '/' then "/" else "//"
  | '/' :: _ => "/"
  | _ => ""

def ofParts (root : String) (parts : List String) : String :=
  let text := root ++ String.intercalate "/" parts
  if text.isEmpty then "." else text

def clean (path : String) : String :=
  ofParts (root path) (parts path)

def entry (directory name : String) : String :=
  ofParts (root directory) (parts directory ++ [name])

end Directory

namespace Value

def digitGroups : Bool → List Char → Option (List Char)
  | afterDigit, [] => if afterDigit then some [] else none
  | afterDigit, c :: rest =>
      if c.isDigit then (digitGroups true rest).map (c :: ·)
      else if c = '_' ∧ afterDigit then digitGroups false rest
      else none

def integerOfWord? (word : String) : Option Int :=
  let chars := stripBlanks word.toList
  let body := match chars with
    | '+' :: rest => rest
    | '-' :: rest => rest
    | rest => rest
  let whole := body.takeWhile (· ≠ '.')
  let fraction := (body.dropWhile (· ≠ '.')).drop 1
  if fraction.all (· = '0') then
    (digitGroups false whole).map (fun digits =>
      if chars.head? = some '-' then -(ofDigits digits : Int) else ofDigits digits)
  else none

def readInteger : Value → Checked Int
  | .bool value => .accepted (if value then 1 else 0)
  | .number (.int value) => .accepted value
  | .number (.float value) =>
      match value.ratio? with
      | some (numerator, denominator) =>
          if numerator % denominator = 0 then .accepted (numerator / denominator)
          else .refuse .fractionalInteger
      | none => .refuse .notFinite
  | .text word =>
      match integerOfWord? word with
      | some value => .accepted value
      | none => .refuse .unreadableInteger
  | .bytes _ data =>
      match (textOfUtf8? data).bind integerOfWord? with
      | some value => .accepted value
      | none => .refuse .unreadableInteger
  | _ => .refuse .notInteger

def readSize (value : Value) : Checked Nat :=
  (readInteger value).next
    (fun size => if size < 0 then .refuse .negative else .accepted size.toNat)

def readDirectory : Value → Checked String
  | .text path => .accepted (Directory.clean path)
  | _ => .refuse .notPath

end Value

namespace Settings

def variableStem : String := "SIMPLESCHEMA_"

def source (environment : Environment) (given : Arguments) (name : String) : Arguments :=
  match given.get? name with
  | some value => [(name, value)]
  | none =>
      match environment.text? (variableStem ++ name) with
      | some text => [(name, .text text)]
      | none => []

/-- The directory of settings; a user without a directory has the root. -/
def defaultHome (environment : Environment) : String :=
  let home := String.ofList (environment.home.toList.reverse.dropWhile (· = '/')).reverse
  Directory.entry (if home.isEmpty then "/" else home) ".simpleschema"

def read (environment : Environment) (given : Arguments) : Checked Settings :=
  let sources : Arguments :=
    ["allow_nullable_any", "compile_cache_size", "log_level", "home_dir"].flatMap
      (source environment given)
  (sources.option "allow_nullable_any" Value.readTruth false).map Settings.mk
    |>.both (sources.option "compile_cache_size" Value.readSize 256)
    |>.both (sources.option "log_level" Value.readName "WARNING")
    |>.both (sources.option "home_dir" Value.readDirectory (defaultHome environment))

def logDir (settings : Settings) : String :=
  Directory.entry settings.homeDir "logs"

end Settings

def Environment.nullableAny (environment : Environment) : NullableAny :=
  (Settings.read environment []).map Settings.allowNullableAny

end RecordSchema
