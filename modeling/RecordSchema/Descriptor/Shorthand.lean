import RecordSchema.Descriptor.Building

namespace RecordSchema

/-!
Shorthand: descriptions as plain values.  A text names a kind or a provider, a mapping
lists fields, a list of one item describes its elements, and options are attached in layers
of which the outer one wins.
-/

/-- What a shorthand stands for: a node, with what it says of the field it stands at. -/
structure Parsed where
  descriptor : Descriptor
  optional : Bool
  key : Option String

namespace Shorthand

def typeKey : String := "$type"

/-- The options that belong to a field and not to its node. -/
structure FieldOptions where
  optional : Bool
  key : Option String
  rest : Entries

def optionalOf (options : Entries) : Action Bool :=
  match options.get? "optional" with
  | none => pure false
  | some (.bool optional) => pure optional
  | some given => Action.failShowing given (.optionalNotBoolean given)

def keyOf (options : Entries) : Action (Option String) :=
  match options.get? "key" with
  | none => pure none
  | some .null => pure none
  | some (.text key) => pure (some key)
  | some given => Action.failShowing given (.keyNotText given)

def fieldOptions (options : Entries) : Action FieldOptions := do
  let optional ← optionalOf options
  let key ← keyOf options
  return ⟨optional, key, (options.erase "optional").erase "key"⟩

def named (registry : Registry) (name : String) (options : Entries) : Action Descriptor :=
  match Kind.ofName? name with
  | some kind => do Descriptor.buildPrimitive kind (← Arguments.ofEntries options)
  | none =>
      match registry.get? name with
      | some provider => Descriptor.buildRef provider options
      | none => Action.fail (.unknownName name registry.names)

/-- Goes on if the mapping can list its entries. -/
def listed (kind : MapKind) (entries : Entries) : Action Unit :=
  if Entries.hidden kind entries then Action.fault .type else pure ()

def attached (node : Descriptor) (options : Entries) : Action Descriptor :=
  if options.isEmpty then pure node else node.withOptions options

mutual
def parse (registry : Registry) : Value → Entries → Action Parsed
  | .tuple [inner, .map _ layer], options => parse registry inner (Entries.merge layer options)
  | .tuple items, _ => Action.failShowing (.tuple items) (.notPair (.tuple items))
  | .map kind entries, options =>
      if Entries.contains entries typeKey then do
        listed kind entries
        parseTyped registry entries (Entries.merge (Entries.erase entries typeKey) options)
      else do
        let own ← fieldOptions options
        listed kind entries
        let fields ← parseFields registry entries
        let node ← Descriptor.buildMapping fields (← Arguments.ofEntries own.rest)
        return ⟨node, own.optional, own.key⟩
  | .list items, options => do
      let own ← fieldOptions options
      let node ← parseElement registry items own.rest
      return ⟨node, own.optional, own.key⟩
  | .descriptor node, options => do
      let own ← fieldOptions options
      return ⟨← attached node own.rest, own.optional, own.key⟩
  | .text name, options => do
      let own ← fieldOptions options
      return ⟨← named registry name own.rest, own.optional, own.key⟩
  | spec, options => do
      let own ← fieldOptions options
      match spec with
      | .null | .bool _ | .number _ | .bytes false _ =>
          Action.failShowing spec (.notDescription spec)
      | spec => return ⟨← Descriptor.buildRef spec own.rest, own.optional, own.key⟩
termination_by structural spec => spec

def parseTyped (registry : Registry) : List (Value × Value) → Entries → Action Parsed
  | [], _ => Action.fault .value
  | (key, spec) :: rest, options =>
      match key with
      | .text name =>
          if name = typeKey then parse registry spec options
          else parseTyped registry rest options
      | _ => parseTyped registry rest options
termination_by structural entries => entries

def parseElement (registry : Registry) : List Value → Entries → Action Descriptor
  | [element], options => do
      let parsed ← parse registry element []
      Descriptor.buildArray parsed.descriptor (← Arguments.ofEntries options)
  | items, _ => Action.fail (.elementCount items.length)
termination_by structural items => items

def parseFields (registry : Registry) : List (Value × Value) → Action (List Field)
  | [] => return []
  | (key, spec) :: rest =>
      match key with
      | .text name => do
          let parsed ← parse registry spec []
          let fields ← parseFields registry rest
          return ⟨name, parsed.descriptor, parsed.optional, parsed.key⟩ :: fields
      | key => Action.failShowing key (.nameNotText key)
termination_by structural entries => entries
end

end Shorthand

namespace Value

/-- The node that a shorthand stands for.  Names are looked up in the registry given, or
in the one of the session. -/
def parse (spec : Value) (options : Entries) (registry : Option Registry) :
    Action Descriptor := do
  let names := Registry.orElse registry (← get).registry
  return (← Shorthand.parse names spec options).descriptor

def toDescriptor : Value → Action Descriptor
  | .descriptor node => pure node
  | spec => spec.parse [] none

end Value

end RecordSchema
