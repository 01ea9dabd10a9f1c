import RecordSchema.Descriptor.Building

namespace RecordSchema

/-!
Building nodes, fields and option records from named arguments of any type.  Nested
mappings that stand for a node or a field are built in turn, to the depth of the arguments.
-/

/-- What can be built from named arguments. -/
inductive Blueprint where
  | primitive
  | mapping
  | array
  | reference
  | field
  | optionRecord (kind : RecordKind)
deriving DecidableEq, Repr

mutual
def Value.depth : Value → Nat
  | .list items => itemsDepth items + 1
  | .tuple items => itemsDepth items + 1
  | .map _ entries => entriesDepth entries + 1
  | _ => 0
termination_by structural value => value

def itemsDepth : List Value → Nat
  | [] => 0
  | item :: items => max item.depth (itemsDepth items)
termination_by structural items => items

def entriesDepth : List (Value × Value) → Nat
  | [] => 0
  | (_, value) :: rest => max value.depth (entriesDepth rest)
termination_by structural entries => entries
end

namespace Blueprint

def ofName? (name : String) : Option Blueprint :=
  match name with
  | "Primitive" => some .primitive
  | "Mapping" => some .mapping
  | "Array" => some .array
  | "ExternalRef" => some .reference
  | "FieldSpec" => some .field
  | name => (RecordKind.ofName? name).map .optionRecord

def missing (name : String) : Complaint := .invalid [name] .missing

def primitiveOptions (kind : Kind) (given : Arguments) : Action (Checked Primitive) :=
  match given.get? "options" with
  | none => return .accepted (.ofKind kind)
  | some .null => return .accepted (.ofKind kind)
  | some (.map _ entries) => do
      let record ← OptionRecord.build (.primitive kind) (← Arguments.ofEntries entries)
      return .accepted (record.primitive?.getD (.ofKind kind))
  | some (.options (.primitive own)) =>
      if own.kind = kind then return .accepted own
      else
        return .refused [.invalid [] (.recordMismatch kind
          (RecordKind.primitive kind).recordName (RecordKind.primitive own.kind).recordName)]
  | some _ => return .refused [.invalid ["options"] .alternatives]

def strayOptions (given : Arguments) : Action (List Complaint) :=
  match given.get? "options" with
  | none => return []
  | some (.map .readOnly _) => return [.invalid ["options"] .alternatives]
  | some (.map _ entries) => do
      let _ ← OptionRecord.build (.primitive .null) (← Arguments.ofEntries entries)
      return []
  | some (.options (.primitive _)) => return []
  | some _ => return [.invalid ["options"] .alternatives]

def kindReason (given : Value) : Except Reason Kind :=
  let refused := .error (.notAmong (Kind.all.map Kind.name))
  match given with
  | .text name =>
      match Kind.ofName? name with
      | some kind => .ok kind
      | none => refused
  | _ => refused

def buildPrimitive (given : Arguments) : Action Descriptor := do
  match given.get? "kind" with
  | none =>
      let stray ← strayOptions given
      Action.fail (.refused "descriptor" (missing "kind" :: stray))
  | some kind =>
      if !kind.hashable then Action.fault .type
      else
        match kindReason kind with
        | .ok kind =>
            return .primitive (← Action.accept "descriptor" (← primitiveOptions kind given))
        | .error reason =>
            let stray ← strayOptions given
            Action.fail (.refused "descriptor" (.invalid ["kind"] reason :: stray))

def recordOption (kind : RecordKind) (given : Arguments) : Action (Checked OptionRecord) :=
  match given.get? "options" with
  | none => return .accepted (← OptionRecord.build kind [])
  | some .null => return .accepted (← OptionRecord.build kind [])
  | some (.map _ entries) =>
      return .accepted (← OptionRecord.build kind (← Arguments.ofEntries entries))
  | some (.options record) =>
      if record.recordKind = kind then return .accepted record
      else return .refused [.invalid ["options"] (.notRecord kind.recordName)]
  | some _ => return .refused [.invalid ["options"] (.notRecord kind.recordName)]

def eachItem (step : Value → Action (Checked α)) : Nat → List Value → Action (Checked (List α))
  | _, [] => return .accepted []
  | position, item :: items => do
      let check ← step item
      let rest ← eachItem step (position + 1) items
      return .both (.map List.cons (.within (toString position) check)) rest

def buildReference (given : Arguments) : Action Descriptor := do
  let provider ← match given.get? "provider" with
    | none => pure (.refused [missing "provider"])
    | some candidate => pure (.accepted (← candidate.conform))
  let options ← match given.get? "options" with
    | none => pure (.accepted [])
    | some .null => pure (.accepted [])
    | some (.map kind entries) =>
        pure (.accepted (← Action.copying (Entries.snapshot entries kind)))
    | some _ => pure (.refused [.invalid ["options"] .optionsNotMapping])
  Action.accept "provider reference" (.both (.map Descriptor.ref provider) options)

/-- How an argument is read as a node, and how an item is read as a field. -/
structure Nested where
  node : String → Value → Action (Checked Descriptor)
  field : Value → Action (Checked Field)

def buildField (nested : Nested) (given : Arguments) : Action Field := do
  let name := given.required "name" Value.readName
  let descriptor ← match given.get? "descriptor" with
    | none => pure (.refused [missing "descriptor"])
    | some value => nested.node "descriptor" value
  let optional := given.option "optional" Value.readTruth false
  let key := given.option "key" (Value.orNull Value.readName) none
  Action.accept "field"
    (.both (.both (.both (.map Field.mk name) descriptor) optional) key)

def fieldsOf (nested : Nested) (items : List Value) : Action (Checked (List Field)) := do
  return .within "fields" (← eachItem nested.field 0 items)

def buildMapping (nested : Nested) (given : Arguments) : Action Descriptor := do
  let fields ← match given.get? "fields" with
    | none => pure (.accepted [])
    | some value =>
        match value.items? with
        | none => pure (.refused [.invalid ["fields"] .notTuple])
        | some items => fieldsOf nested items
  let record ← recordOption .mapping given
  let parts ← Action.accept "mapping" (.both (.map Prod.mk fields) record)
  Descriptor.mappingOf parts.1 (parts.2.nullable?.getD false)

def buildArray (nested : Nested) (given : Arguments) : Action Descriptor := do
  let element ← match given.get? "element" with
    | none => pure (.refused [missing "element"])
    | some value => nested.node "element" value
  let record ← recordOption .array given
  let parts ← Action.accept "array" (.both (.map Prod.mk element) record)
  return .array parts.1 parts.2.arrayOptions

/-- A mapping that stands for a node has to be good for every sort of node; the first
sort is taken. -/
def buildAny (nested : Nested) (entries : Entries) : Action Descriptor := do
  let given ← Arguments.ofEntries entries
  let node ← buildPrimitive given
  let _ ← buildMapping nested given
  let _ ← buildArray nested given
  let _ ← buildReference given
  return node

def nested : Nat → Nested
  | 0 =>
      { node := fun place value =>
          match value with
          | .descriptor node => return .accepted node
          | _ => return .refused [.invalid [place] .alternatives]
        field := fun value =>
          match value with
          | .field f => return .accepted f
          | _ => return .refused [.invalid [] (.notRecord "FieldSpec")] }
  | fuel + 1 =>
      { node := fun place value =>
          match value with
          | .map .plain entries => return .accepted (← buildAny (nested fuel) entries)
          | .map .record entries => return .accepted (← buildAny (nested fuel) entries)
          | value => (nested fuel).node place value
        field := fun value =>
          match value with
          | .map .plain entries => do
              return .accepted (← buildField (nested fuel) (← Arguments.ofEntries entries))
          | .map .record entries => do
              return .accepted (← buildField (nested fuel) (← Arguments.ofEntries entries))
          | value => (nested fuel).field value }

def build (blueprint : Blueprint) (given : Arguments) : Action Value :=
  let nested := nested (entriesDepth (given.map (fun argument => (.text argument.1, argument.2))))
  match blueprint with
  | .primitive => return .descriptor (← buildPrimitive given)
  | .mapping => return .descriptor (← buildMapping nested given)
  | .array => return .descriptor (← buildArray nested given)
  | .reference => return .descriptor (← buildReference given)
  | .field => return .field (← buildField nested given)
  | .optionRecord kind => return .options (← OptionRecord.build kind given)

/-- Puts named parts together without any check.  Parts of a wrong type are taken for
absent, but for an element, which may be anything. -/
def assemble (blueprint : Blueprint) (given : Arguments) : Action Value :=
  let node (value : Option Value) : Descriptor :=
    match value with
    | some (.descriptor node) => node
    | some value => .foreign value
    | none => .foreign .null
  match blueprint, given.get? "options" with
  | .array, some (.options (.array own)) =>
      return .descriptor (.array (node (given.get? "element")) own)
  | .array, _ => return .descriptor (.array (node (given.get? "element")) {})
  | .reference, options =>
      return .descriptor (.ref ((given.get? "provider").getD .null)
        ((options.bind Value.entries?).getD []))
  | .field, _ =>
      let name := match given.get? "name" with
        | some (.text name) => name
        | _ => ""
      let key := match given.get? "key" with
        | some (.text key) => some key
        | _ => none
      let optional := match given.get? "optional" with
        | some (.bool optional) => optional
        | _ => false
      return .field ⟨name, node (given.get? "descriptor"), optional, key⟩
  | .mapping, options =>
      let items := ((given.get? "fields").bind Value.items?).getD []
      let fields := items.filterMap (fun item =>
        match item with
        | .field f => some f
        | _ => none)
      let nullable := match options with
        | some (.options record) => record.nullable?.getD false
        | _ => false
      return .descriptor (.mapping fields nullable)
  | .primitive, some (.options (.primitive own)) => return .descriptor (.primitive own)
  | .primitive, _ =>
      match (given.get? "kind").map kindReason with
      | some (.ok kind) => return .descriptor (.primitive (.ofKind kind))
      | _ => return .descriptor (.primitive .null)
  | .optionRecord kind, _ => build (.optionRecord kind) given

end Blueprint

end RecordSchema
