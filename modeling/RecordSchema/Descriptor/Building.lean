import RecordSchema.Options.Reading
import RecordSchema.Provider.Conformance
import RecordSchema.Provider.Snapshot

namespace RecordSchema

/-!
Building nodes from checked parts.  Options are read by the rules of the node's kind,
fields must not share a name or a key, and a reference keeps a snapshot of its options.
-/

namespace Arguments

/-- The entries as arguments; other keys than text are misuse. -/
def ofEntries (entries : Entries) : Action Arguments :=
  match ofEntries? entries with
  | some given => pure given
  | none => Action.fault .type

end Arguments

namespace OptionRecord

def build (kind : RecordKind) (given : Arguments) : Action OptionRecord := do
  Action.accept kind.label (OptionRecord.read (← Action.nullableAny) kind given)

/-- The options of a kind, whatever record holds them. -/
def primitive? : OptionRecord → Option Primitive
  | .primitive options => some options
  | _ => none

def arrayOptions : OptionRecord → ArrayOptions
  | .array options => options
  | _ => {}

end OptionRecord

def repeatedNames (names : List String) : List String :=
  (names.eraseDups.filter (fun name => 1 < names.count name)).mergeSort
    (fun a b => decide (a ≤ b))

namespace Descriptor

def buildPrimitive (kind : Kind) (given : Arguments) : Action Descriptor := do
  match (← OptionRecord.build (.primitive kind) given).primitive? with
  | some options => return .primitive options
  | none => return .primitive (.ofKind kind)

/-- The complaint about fields that share a name, or else a key. -/
def clashes (fields : List Field) : List Complaint :=
  let names := repeatedNames (fields.map Field.name)
  let keys := repeatedNames (fields.map Field.wireKey)
  if !names.isEmpty then [.invalid [] (.duplicateNames names)]
  else if !keys.isEmpty then [.invalid [] (.duplicateKeys keys)]
  else []

def mappingOf (fields : List Field) (nullable : Bool) : Action Descriptor :=
  match clashes fields with
  | [] => pure (.mapping fields nullable)
  | complaints => Action.fail (.refused "mapping" complaints)

def buildMapping (fields : List Field) (given : Arguments) : Action Descriptor := do
  let record ← OptionRecord.build .mapping given
  mappingOf fields (record.nullable?.getD false)

def buildArray (element : Descriptor) (given : Arguments) : Action Descriptor := do
  let record ← OptionRecord.build .array given
  if element.isForeign then
    Action.fail (.refused "array" [.invalid ["element"] .alternatives])
  else return .array element record.arrayOptions

def buildRef (candidate : Value) (options : Entries) : Action Descriptor := do
  let provider ← candidate.conform
  return .ref provider (← Action.copying options.snapshot)

def withOptions (node : Descriptor) (options : Entries) : Action Descriptor := do
  let given ← Arguments.ofEntries options
  match node with
  | .primitive own =>
      buildPrimitive own.kind (Arguments.merge (OptionRecord.primitive own).explicit given)
  | .mapping fields nullable =>
      buildMapping fields (Arguments.merge (OptionRecord.mapping nullable).explicit given)
  | .array element own =>
      buildArray element (Arguments.merge (OptionRecord.array own).explicit given)
  | .ref provider own => buildRef provider (Entries.merge own options)
  | .foreign _ => Action.fault (.attribute "with_options")

def requiredKeys (fields : List Field) : List String :=
  ((fields.filter (fun f => !f.optional)).map Field.wireKey).mergeSort
    (fun a b => decide (a ≤ b))

end Descriptor

end RecordSchema
