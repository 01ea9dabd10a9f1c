import RecordSchema.Options.Checked
import RecordSchema.Text.Utf8
import RecordSchema.Value.Entries

namespace RecordSchema

/-!
Reading option records from named values.  Every option is read by the rule of its
type; the complaints come in declaration order, those about undeclared names after them.
-/

/-- Named values, in the order given. -/
abbrev Arguments := List (String × Value)

namespace Arguments

def get? (given : Arguments) (name : String) : Option Value :=
  (List.find? (fun argument => argument.1 = name) given).map Prod.snd

def contains (given : Arguments) (name : String) : Bool :=
  given.any (fun argument => argument.1 = name)

def insert : Arguments → String → Value → Arguments
  | [], name, value => [(name, value)]
  | (n, v) :: rest, name, value =>
      if n = name then (n, value) :: rest else (n, v) :: insert rest name value

def merge (lower upper : Arguments) : Arguments :=
  upper.foldl (fun given argument => insert given argument.1 argument.2) lower

def reservedName : String := "self"

/-- The entries as arguments, unless a key is no text or reserved. -/
def ofEntries? : Entries → Option Arguments
  | [] => some []
  | (.text name, value) :: rest =>
      if name = reservedName then none else (ofEntries? rest).map ((name, value) :: ·)
  | _ :: _ => none

end Arguments

namespace Value

/-! ### Strict rules -/

def readBool : Value → Checked Bool
  | .bool value => .accepted value
  | _ => .refuse .notBoolean

def readInt : Value → Checked Int
  | .number (.int value) => .accepted value
  | _ => .refuse .notInteger

/-- A bound is an integer or a float; any other value is refused as both. -/
def readBound : Value → Checked Number
  | .number value => .accepted value
  | _ => .refused [.invalid ["int"] .notInteger, .invalid ["float"] .notNumber]

def readText : Value → Checked String
  | .text value => .accepted value
  | _ => .refuse .notText

def readCount : Value → Checked Nat
  | .number (.int (.ofNat value)) => .accepted value
  | .number (.int (.negSucc _)) => .refuse .negative
  | _ => .refuse .notInteger

def readFormat : Value → Checked Format
  | .text name =>
      match Format.ofName? name with
      | some format => .accepted format
      | none => .refuse (.notAmong ["datetime", "email"])
  | _ => .refuse (.notAmong ["datetime", "email"])

def readMembers (member : Value → Checked α) (value : Value) : Checked (List α) :=
  match value.items? with
  | some members => Checked.items member 0 members
  | none => .refuse .notTuple

def orNull (read : Value → Checked α) : Value → Checked (Option α)
  | .null => .accepted none
  | value => (read value).map some

/-! ### Lenient rules -/

def truthWords : List String := ["1", "t", "true", "y", "yes", "on"]

def falsehoodWords : List String := ["0", "f", "false", "n", "no", "off"]

def truthOfWord (word : String) : Checked Bool :=
  let lower := String.ofList (word.toList.map Char.toLower)
  if truthWords.contains lower then .accepted true
  else if falsehoodWords.contains lower then .accepted false
  else .refuse .unclearBoolean

def truthOfInt (value : Int) : Checked Bool :=
  if value = 1 then .accepted true
  else if value = 0 then .accepted false
  else .refuse .unclearBoolean

def wordRange (value : Int) : Bool :=
  let bound : Int := Nat.pow 2 63
  value < bound && -bound ≤ value

def readTruth : Value → Checked Bool
  | .bool value => .accepted value
  | .text word => truthOfWord word
  | .bytes false data =>
      match textOfUtf8? data with
      | some word => truthOfWord word
      | none => .refuse .unclearBoolean
  | .number (.int value) =>
      if wordRange value then truthOfInt value else .refuse .notBoolean
  | .number (.float value) =>
      match value.ratio? with
      | some (numerator, denominator) =>
          let whole := numerator / denominator
          if numerator % denominator = 0 ∧ wordRange whole then truthOfInt whole
          else .refuse .notBoolean
      | none => .refuse .notBoolean
  | _ => .refuse .notBoolean

def readName : Value → Checked String
  | .text value => .accepted value
  | .bytes _ data =>
      match textOfUtf8? data with
      | some value => .accepted value
      | none => .refuse .undecodableText
  | _ => .refuse .notText

end Value

namespace Arguments

def option (given : Arguments) (name : String) (read : Value → Checked α) (default : α) :
    Checked α :=
  match given.get? name with
  | some value => (read value).within name
  | none => .accepted default

def required (given : Arguments) (name : String) (read : Value → Checked α) : Checked α :=
  match given.get? name with
  | some value => (read value).within name
  | none => .refused [.invalid [name] .missing]

def undeclared (given : Arguments) (declared : List String) : List Complaint :=
  (given.filter (fun argument => !declared.contains argument.1)).map
    (fun argument => .undeclared argument.1)

def nullable (given : Arguments) : Checked Bool :=
  given.option "nullable" Value.readBool false

def integerOptions (given : Arguments) : Checked IntegerOptions :=
  given.nullable.map IntegerOptions.mk
    |>.both (given.option "minimum" (Value.orNull Value.readInt) none)
    |>.both (given.option "maximum" (Value.orNull Value.readInt) none)
    |>.both (given.option "enum" (Value.orNull (Value.readMembers Value.readInt)) none)

def numberOptions (given : Arguments) : Checked NumberOptions :=
  given.nullable.map NumberOptions.mk
    |>.both (given.option "minimum" (Value.orNull Value.readBound) none)
    |>.both (given.option "maximum" (Value.orNull Value.readBound) none)

def stringOptions (given : Arguments) : Checked StringOptions :=
  given.nullable.map StringOptions.mk
    |>.both (given.option "min_length" (Value.orNull Value.readCount) none)
    |>.both (given.option "max_length" (Value.orNull Value.readCount) none)
    |>.both (given.option "enum" (Value.orNull (Value.readMembers Value.readText)) none)
    |>.both (given.option "format" (Value.orNull Value.readFormat) none)

def arrayOptions (given : Arguments) : Checked ArrayOptions :=
  given.nullable.map ArrayOptions.mk
    |>.both (given.option "min_items" (Value.orNull Value.readCount) none)
    |>.both (given.option "max_items" (Value.orNull Value.readCount) none)

/-- The declared options of a kind.  The names that it leaves over are not looked at. -/
def declaredOptions (given : Arguments) : RecordKind → Checked OptionRecord
  | .primitive .null => .accepted (.primitive .null)
  | .primitive .boolean => given.nullable.map (fun nullable => .primitive (.boolean nullable))
  | .primitive .integer => given.integerOptions.map (fun o => .primitive (.integer o))
  | .primitive .number => given.numberOptions.map (fun o => .primitive (.number o))
  | .primitive .string => given.stringOptions.map (fun o => .primitive (.string o))
  | .primitive .any => given.nullable.map (fun nullable => .primitive (.any nullable))
  | .mapping => given.nullable.map .mapping
  | .array => given.arrayOptions.map .array

end Arguments

/-- What the settings say of a nullable `any`: allowed, not allowed, or unreadable. -/
abbrev NullableAny := Checked Bool

namespace OptionRecord

def permitted (policy : NullableAny) (record : OptionRecord) : Checked OptionRecord :=
  match record with
  | .primitive (.any true) =>
      policy.next (fun allowed => if allowed then .accepted record else .refuse .nullableAny)
  | _ => .accepted record

def read (policy : NullableAny) (kind : RecordKind) (given : Arguments) : Checked OptionRecord :=
  ((given.declaredOptions kind).alongside (given.undeclared kind.declared)).next
    (permitted policy)

def numberValue (value : Number) : Value := .number value

def explicitMembers (name : String) (value : α → Value) : Option (List α) → Arguments
  | none => []
  | some members => [(name, .tuple (members.map value))]

def explicitOption (name : String) (value : α → Value) : Option α → Arguments
  | none => []
  | some given => [(name, value given)]

def explicitNullable (nullable : Bool) : Arguments :=
  if nullable then [("nullable", .bool true)] else []

def countValue (count : Nat) : Value := .int count

def explicit : OptionRecord → Arguments
  | .primitive .null => []
  | .primitive (.boolean nullable) => explicitNullable nullable
  | .primitive (.integer o) =>
      explicitNullable o.nullable ++ explicitOption "minimum" Value.int o.minimum
        ++ explicitOption "maximum" Value.int o.maximum
        ++ explicitMembers "enum" Value.int o.enum
  | .primitive (.number o) =>
      explicitNullable o.nullable ++ explicitOption "minimum" numberValue o.minimum
        ++ explicitOption "maximum" numberValue o.maximum
  | .primitive (.string o) =>
      explicitNullable o.nullable ++ explicitOption "min_length" countValue o.minLength
        ++ explicitOption "max_length" countValue o.maxLength
        ++ explicitMembers "enum" Value.text o.enum
        ++ explicitOption "format" (fun format => .text format.name) o.format
  | .primitive (.any nullable) => explicitNullable nullable
  | .mapping nullable => explicitNullable nullable
  | .array o =>
      explicitNullable o.nullable ++ explicitOption "min_items" countValue o.minItems
        ++ explicitOption "max_items" countValue o.maxItems

end OptionRecord

end RecordSchema
