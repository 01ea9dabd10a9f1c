import RecordSchema.Text.Quoted
import RecordSchema.Value.Basic

namespace RecordSchema

/-!
The text of values.  `Value.source` writes a value the way a description would spell it,
`Value.display` shows text bare and all else as its source.
-/

def commaSeparated (parts : List String) : String :=
  String.intercalate ", " parts

def pad (width : Nat) (value : Nat) : String :=
  let digits := toString value
  String.ofList (List.replicate (width - digits.length) '0') ++ digits

def truthText (value : Bool) : String :=
  if value then "True" else "False"

namespace Moment

def zoneText (minutes : Int) : String :=
  (if minutes < 0 then "-" else "+") ++ pad 2 (minutes.natAbs / 60) ++ ":"
    ++ pad 2 (minutes.natAbs % 60)

def zoneSource (minutes : Int) : String :=
  if minutes = 0 then "datetime.timezone.utc"
  else
    let days : Int := if minutes < 0 then -1 else 0
    let seconds := (minutes - days * 1440) * 60
    let delta := if days < 0 then s!"days=-1, seconds={seconds}" else s!"seconds={seconds}"
    s!"datetime.timezone(datetime.timedelta({delta}))"

def source (m : Moment) : String :=
  let clock := [m.year, m.month, m.day, m.hour, m.minute].map toString
  let seconds := if m.microsecond ≠ 0 then [toString m.second, toString m.microsecond]
    else if m.second ≠ 0 then [toString m.second] else []
  let zone := match m.zone with
    | none => []
    | some minutes => ["tzinfo=" ++ zoneSource minutes]
  s!"datetime.datetime({commaSeparated (clock ++ seconds ++ zone)})"

def display (m : Moment) : String :=
  let fraction := if m.microsecond = 0 then "" else "." ++ pad 6 m.microsecond
  let zone := match m.zone with
    | none => ""
    | some minutes => zoneText minutes
  s!"{pad 4 m.year}-{pad 2 m.month}-{pad 2 m.day} " ++
    s!"{pad 2 m.hour}:{pad 2 m.minute}:{pad 2 m.second}{fraction}{zone}"

end Moment

def tupleText (parts : List String) : String :=
  match parts with
  | [part] => "(" ++ part ++ ",)"
  | parts => "(" ++ commaSeparated parts ++ ")"

def braced (parts : List String) : String :=
  "\x7b" ++ commaSeparated parts ++ "\x7d"

def callText (name : String) (parts : List (String × String)) : String :=
  name ++ "(" ++ commaSeparated (parts.map (fun part => part.1 ++ "=" ++ part.2)) ++ ")"

def optionText (text : α → String) : Option α → String
  | none => "None"
  | some value => text value

namespace OptionRecord

def partTexts : OptionRecord → List (String × String)
  | .primitive .null => []
  | .primitive (.boolean nullable) => [("nullable", truthText nullable)]
  | .primitive (.integer o) =>
    [("nullable", truthText o.nullable), ("minimum", optionText toString o.minimum),
      ("maximum", optionText toString o.maximum),
      ("enum", optionText (fun members => tupleText (members.map toString)) o.enum)]
  | .primitive (.number o) =>
    [("nullable", truthText o.nullable), ("minimum", optionText Number.text o.minimum),
      ("maximum", optionText Number.text o.maximum)]
  | .primitive (.string o) =>
    [("nullable", truthText o.nullable), ("min_length", optionText toString o.minLength),
      ("max_length", optionText toString o.maxLength),
      ("enum", optionText (fun members => tupleText (members.map quoted)) o.enum),
      ("format", optionText (fun format => quoted format.name) o.format)]
  | .primitive (.any nullable) => [("nullable", truthText nullable)]
  | .mapping nullable => [("nullable", truthText nullable)]
  | .array o =>
    [("nullable", truthText o.nullable), ("min_items", optionText toString o.minItems),
      ("max_items", optionText toString o.maxItems)]

def source (record : OptionRecord) : String :=
  callText record.recordName record.partTexts

end OptionRecord

def ProviderClass.source (c : ProviderClass) : String :=
  s!"<class {quoted c.typeName}>"

def providerSource (c : ProviderClass) : String :=
  s!"<{c.typeName} object>"

mutual
def Value.source : Value → String
  | .null => "None"
  | .bool value => truthText value
  | .number value => value.text
  | .text value => quoted value
  | .bytes false data => quotedBytes data
  | .bytes true data => "bytearray(" ++ quotedBytes data ++ ")"
  | .list items => "[" ++ commaSeparated (itemSources items) ++ "]"
  | .tuple items => tupleText (itemSources items)
  | .set false [] => "set()"
  | .set true [] => "frozenset()"
  | .set false members => braced (itemSources members)
  | .set true members => "frozenset(" ++ braced (itemSources members) ++ ")"
  | .map .plain entries => braced (entrySources entries)
  | .map .record entries => "Record(" ++ braced (entrySources entries) ++ ")"
  | .map .readOnly entries => "mappingproxy(" ++ braced (entrySources entries) ++ ")"
  | .date year month day => s!"datetime.date({year}, {month}, {day})"
  | .moment value => value.source
  | .providerClass c => c.source
  | .provider c _ => providerSource c
  | .descriptor node => nodeSource node
  | .field ⟨name, descriptor, optional, key⟩ =>
    callText "FieldSpec" [("name", quoted name), ("descriptor", nodeSource descriptor),
      ("optional", truthText optional), ("key", optionText quoted key)]
  | .options record => record.source
  | .other typeName => s!"<{typeName} object>"
termination_by structural value => value

def itemSources : List Value → List String
  | [] => []
  | item :: items => item.source :: itemSources items
termination_by structural items => items

def entrySources : List (Value × Value) → List String
  | [] => []
  | (key, value) :: rest => (key.source ++ ": " ++ value.source) :: entrySources rest
termination_by structural entries => entries

def nodeSource : Descriptor → String
  | .primitive options =>
    callText "Primitive" [("kind", quoted options.kind.name),
      ("options", (OptionRecord.primitive options).source)]
  | .mapping fields nullable =>
    callText "Mapping" [("fields", tupleText (fieldSources fields)),
      ("options", (OptionRecord.mapping nullable).source)]
  | .array element options =>
    callText "Array"
      [("element", nodeSource element), ("options", (OptionRecord.array options).source)]
  | .ref provider options =>
    callText "ExternalRef" [("provider", provider.source),
      ("options", "mappingproxy(" ++ braced (entrySources options) ++ ")")]
  | .foreign value => value.source
termination_by structural node => node

def fieldSources : List Field → List String
  | [] => []
  | ⟨name, descriptor, optional, key⟩ :: rest =>
    callText "FieldSpec" [("name", quoted name), ("descriptor", nodeSource descriptor),
      ("optional", truthText optional), ("key", optionText quoted key)] :: fieldSources rest
termination_by structural fields => fields
end

/-- Integers from here on have too many digits to be written: ten to the power of 4300, in two
steps, each of which is small enough to be evaluated in proofs. -/
def digitLimit : Nat := Nat.pow (Nat.pow 10 100) 43

def Number.hasText : Number → Bool
  | .int value => value.natAbs < digitLimit
  | .float _ => true

namespace OptionRecord

/-- The numbers that the text of the record shows. -/
def numbers : OptionRecord → List Number
  | .primitive (.integer o) =>
    (o.minimum.toList ++ o.maximum.toList ++ o.enum.getD []).map Number.int
  | .primitive (.number o) => o.minimum.toList ++ o.maximum.toList
  | .primitive (.string o) =>
    (o.minLength.toList ++ o.maxLength.toList).map (fun (count : Nat) => .int count)
  | .array o => (o.minItems.toList ++ o.maxItems.toList).map (fun (count : Nat) => .int count)
  | _ => []

end OptionRecord

mutual
/-- Whether the value has a source: none of its integers is too long to be written. -/
def Value.hasSource : Value → Bool
  | .number value => value.hasText
  | .list items => itemsHaveSource items
  | .tuple items => itemsHaveSource items
  | .set _ members => itemsHaveSource members
  | .map _ entries => entriesHaveSource entries
  | .descriptor node => nodeHasSource node
  | .field ⟨_, descriptor, _, _⟩ => nodeHasSource descriptor
  | .options record => record.numbers.all Number.hasText
  | _ => true
termination_by structural value => value

def itemsHaveSource : List Value → Bool
  | [] => true
  | item :: items => item.hasSource && itemsHaveSource items
termination_by structural items => items

def entriesHaveSource : List (Value × Value) → Bool
  | [] => true
  | (key, value) :: rest => key.hasSource && value.hasSource && entriesHaveSource rest
termination_by structural entries => entries

def nodeHasSource : Descriptor → Bool
  | .primitive options => (OptionRecord.primitive options).numbers.all Number.hasText
  | .mapping fields _ => fieldsHaveSource fields
  | .array element options =>
    nodeHasSource element && (OptionRecord.array options).numbers.all Number.hasText
  | .ref provider options => provider.hasSource && entriesHaveSource options
  | .foreign value => value.hasSource
termination_by structural node => node

def fieldsHaveSource : List Field → Bool
  | [] => true
  | ⟨_, descriptor, _, _⟩ :: rest => nodeHasSource descriptor && fieldsHaveSource rest
termination_by structural fields => fields
end

def Value.display : Value → String
  | .text value => value
  | .date year month day => s!"{pad 4 year}-{pad 2 month}-{pad 2 day}"
  | .moment value => value.display
  | value => value.source

def Descriptor.typeName : Descriptor → String
  | .primitive _ => "Primitive"
  | .mapping _ _ => "Mapping"
  | .array _ _ => "Array"
  | .ref _ _ => "ExternalRef"
  | .foreign _ => "object"

def Value.typeName : Value → String
  | .null => "NoneType"
  | .bool _ => "bool"
  | .number (.int _) => "int"
  | .number (.float _) => "float"
  | .text _ => "str"
  | .bytes false _ => "bytes"
  | .bytes true _ => "bytearray"
  | .list _ => "list"
  | .tuple _ => "tuple"
  | .set false _ => "set"
  | .set true _ => "frozenset"
  | .map .plain _ => "dict"
  | .map .record _ => "Record"
  | .map .readOnly _ => "mappingproxy"
  | .date _ _ _ => "date"
  | .moment _ => "datetime"
  | .providerClass c => c.metaName
  | .provider c _ => c.typeName
  | .descriptor node => node.typeName
  | .field _ => "FieldSpec"
  | .options record => record.recordName
  | .other typeName => typeName

def Value.shapeName : Value → String
  | .null => "null"
  | .map _ _ => "object"
  | .list _ => "array"
  | .tuple _ => "array"
  | value => value.typeName

end RecordSchema
