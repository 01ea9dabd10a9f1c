import RecordSchema.Document.Rendering
import RecordSchema.Provider.Resolution

namespace RecordSchema

/-!
Compilation of descriptors into documents.  Each option has a clause of its own, a null
type stands for `nullable`, mappings admit no further keys, and references are replaced by
the document of what they stand for.
-/

def clauseOf (clause : α → Clause) : Option α → Document
  | none => []
  | some bound => [clause bound]

def TypeName.orNull (type : TypeName) (nullable : Bool) : TypeClause :=
  if nullable then .oneOf [type, .null] else .one type

def enumClause (members : List α → Members) : Option (List α) → Document
  | none => []
  | some [] => []
  | some given => [.enum (members given)]

namespace Primitive

def document : Primitive → Document
  | .any _ => [.type (.oneOf TypeName.all)]
  | .null => [.type (.one .null)]
  | .boolean nullable => [.type (TypeName.boolean.orNull nullable)]
  | .integer o =>
      .type (TypeName.integer.orNull o.nullable)
        :: clauseOf (fun bound => .minimum (.int bound)) o.minimum
        ++ clauseOf (fun bound => .maximum (.int bound)) o.maximum
        ++ enumClause Members.integers o.enum
  | .number o =>
      .type (TypeName.number.orNull o.nullable)
        :: clauseOf Clause.minimum o.minimum
        ++ clauseOf Clause.maximum o.maximum
  | .string o =>
      .type (TypeName.string.orNull o.nullable)
        :: clauseOf Clause.minLength o.minLength
        ++ clauseOf Clause.maxLength o.maxLength
        ++ enumClause Members.texts o.enum
        ++ clauseOf Clause.format o.format

end Primitive

namespace ArrayOptions

def clauses (options : ArrayOptions) : Document :=
  clauseOf Clause.minItems options.minItems ++ clauseOf Clause.maxItems options.maxItems

end ArrayOptions

def mappingDocument (fields : List Field) (nullable : Bool)
    (properties : List (String × Document)) : Document :=
  let required := Descriptor.requiredKeys fields
  [.type (TypeName.object.orNull nullable), .closed, .properties properties]
    ++ (if required.isEmpty then [] else [.required required])

mutual
def Descriptor.compileWith (expand : Value → Entries → Action Document) :
    Descriptor → Action Document
  | .primitive options => return options.document
  | .mapping fields nullable => do
      let properties ← compileFieldsWith expand fields
      return mappingDocument fields nullable properties
  | .array element options => do
      let items ← element.compileWith expand
      return .type (TypeName.array.orNull options.nullable) :: .items items :: options.clauses
  | .ref provider options => expand provider options
  | .foreign value => Action.fail (.notCompilable value)
termination_by structural node => node

def compileFieldsWith (expand : Value → Entries → Action Document) :
    List Field → Action (List (String × Document))
  | [] => return []
  | ⟨name, descriptor, _, key⟩ :: rest => do
      let document ← descriptor.compileWith expand
      let properties ← compileFieldsWith expand rest
      return (key.getD name, document) :: properties
termination_by structural fields => fields
end

namespace Descriptor

def compilerLogger : String := "simpleschema.compiler"

/-- The document of a node, with references expanded at most so many times within one
another. -/
def compileWithin (catalogue : Catalogue) : Nat → Descriptor → Action Document
  | 0, node => node.compileWith (fun _ _ => Action.fault .recursion)
  | limit + 1, node =>
      node.compileWith (fun provider options => do
        let resolved ← catalogue.resolve provider options
        Action.write compilerLogger Log.debug
          s!"Resolved provider {provider.providerName} to {resolved.typeName}"
        resolved.compileWithin catalogue limit)

def compile (catalogue : Catalogue) (node : Descriptor) : Action Document :=
  node.compileWithin catalogue expansionLimit

end Descriptor

/-! ### The cache of compiled documents -/

namespace Session

def cache (session : Session) (capacity : Nat) : Cache :=
  match session.caches.find? (fun entry => entry.1 = capacity) with
  | some entry => entry.2
  | none => {}

def setCache (session : Session) (capacity : Nat) (cache : Cache) : Session :=
  { session with
    caches := (capacity, cache) :: session.caches.filter (fun entry => entry.1 ≠ capacity) }

def clearCaches (session : Session) : Session :=
  { session with caches := [] }

end Session

namespace Descriptor

def compileAndStore (catalogue : Catalogue) (capacity : Nat) (node : Descriptor) :
    Action Document := do
  Action.write compilerLogger Log.debug s!"Compile cache miss for {node.typeName}"
  let document ← node.compile catalogue
  modify (fun session =>
    session.setCache capacity ((session.cache capacity).store capacity node document))
  return document

/-- The document of a node, from the cache if it has it.  The size of the cache is a
setting; there is one cache for each size. -/
def compileCached (catalogue : Catalogue) (node : Descriptor) : Action Document := do
  let capacity := (← Action.settings).compileCacheSize
  if !node.hashable then Action.fault .type
  else
    match ((← get).cache capacity).lookup? node with
    | some (document, cache) =>
        modify (fun session => session.setCache capacity cache)
        return document
    | none => node.compileAndStore catalogue capacity

end Descriptor

def clearCaches : Action Unit :=
  modify Session.clearCaches

end RecordSchema
