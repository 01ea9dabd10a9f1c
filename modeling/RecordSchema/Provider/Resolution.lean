import RecordSchema.Descriptor.Shorthand

namespace RecordSchema

/-!
What providers do.  A provider expands a reference into a description and converts the
values that satisfy it; references are expanded anew at each use.
-/

/-- What the objects of a class do.  An operation is handed the identity of the object,
and conversion is handed a way to convert against other nodes. -/
structure Behaviour where
  resolve : Nat → Entries → Action Value
  convertValue : (Descriptor → Value → Action Value) → Nat → Descriptor → Value → Action Value

/-- The behaviour of each class, by the key of the class. -/
abbrev Catalogue := String → Behaviour

namespace Catalogue

def resolve (catalogue : Catalogue) (provider : Value) (options : Entries) :
    Action Descriptor := do
  let provider ← provider.conform
  let options ← Action.copying options.delivery
  match provider with
  | .provider c id => do
      let spec ← (catalogue c.key).resolve id options
      spec.parse [] none
  | _ => Action.fault .type

def convertValue (catalogue : Catalogue) (convert : Descriptor → Value → Action Value)
    (provider : Value) (resolved : Descriptor) (value : Value) : Action Value := do
  match ← provider.conform with
  | .provider c id => (catalogue c.key).convertValue convert id resolved value
  | _ => Action.fault .type

end Catalogue

def expansionLimit : Nat := 1000

end RecordSchema
