import RecordSchema.Document.Compilation

namespace RecordSchema

/-!
Conversion of values into records.  A mapping becomes a record keyed by field names, a
list keeps its order, and all else passes through.  Failures are collected in the order in
which the value is walked, and do not stop the walk.
-/

/-- A converted value, with the failures found so far. -/
abbrev Converted := Value × List Failure

/-- How a value is converted against a reference, at a place and after earlier failures. -/
abbrev Expansion := Value → Entries → Value → Location → List Failure → Action Converted

def Field.ofKey? (fields : List Field) (key : Value) : Option Field :=
  fields.find? (fun f => key.eqv (.text f.wireKey))

def convertWhole (expand : Expansion) (node : Descriptor) (value : Value) (path : Location)
    (found : List Failure) : Action Converted :=
  match node with
  | .primitive _ => return (value, found)
  | .mapping _ nullable =>
      match value, nullable with
      | .null, true => return (.null, found)
      | value, _ => return (.null, found ++ [.shapeMismatch path "object" value])
  | .array _ options =>
      match value, options.nullable with
      | .null, true => return (.null, found)
      | value, _ => return (.null, found ++ [.shapeMismatch path "array" value])
  | .ref provider options => expand provider options value path found
  | .foreign given => Action.fail (.notConvertible given)

mutual
def Value.convertWith (expand : Expansion) :
    Value → Descriptor → Location → List Failure → Action Converted
  | .map kind entries, node, path, found =>
      match node with
      | .mapping fields _ => do
          let (record, found) ← convertEntries expand entries fields path [] found
          return (.map .record record, found)
      | node => convertWhole expand node (.map kind entries) path found
  | .list items, node, path, found =>
      match node with
      | .array element _ => do
          let (items, found) ← convertItems expand items element path 0 found
          return (.list items, found)
      | node => convertWhole expand node (.list items) path found
  | .tuple items, node, path, found =>
      match node with
      | .array element _ => do
          let (items, found) ← convertItems expand items element path 0 found
          return (.list items, found)
      | node => convertWhole expand node (.tuple items) path found
  | value, node, path, found => convertWhole expand node value path found
termination_by structural value => value

def convertEntries (expand : Expansion) :
    List (Value × Value) → List Field → Location → Entries → List Failure →
      Action (Entries × List Failure)
  | [], _, _, record, found => return (record, found)
  | (key, item) :: rest, fields, path, record, found =>
      match Field.ofKey? fields key with
      | none =>
          convertEntries expand rest fields path record
            (found ++ [.unknownField (path ++ [key]) key.display])
      | some f => do
          let (value, found) ← item.convertWith expand f.descriptor (path ++ [key]) found
          convertEntries expand rest fields path (record.insert (.text f.name) value) found
termination_by structural entries => entries

def convertItems (expand : Expansion) :
    List Value → Descriptor → Location → Nat → List Failure →
      Action (List Value × List Failure)
  | [], _, _, _, found => return ([], found)
  | item :: rest, element, path, position, found => do
      let (value, found) ← item.convertWith expand element (path ++ [.int position]) found
      let (values, found) ← convertItems expand rest element path (position + 1) found
      return (value :: values, found)
termination_by structural items => items
end

def converterLogger : String := "simpleschema.converter"

def completeConversion (expand : Expansion) (node : Descriptor) (value : Value) :
    Action Value := do
  let (result, failures) ← value.convertWith expand node [] []
  if failures.isEmpty then return result
  else
    Action.write converterLogger Log.debug
      s!"Conversion failed with {failures.length} failure(s)"
    throw (.conversion failures .null)

def providerFailures (provider : Value) (path : Location) (failures : List Failure)
    (reason : Value) : List Failure :=
  if failures.isEmpty then [.providerRejection path provider.providerName reason]
  else failures.map (fun failure => failure.rebase path)

/-- Conversion by providers, with references expanded at most so many times within one
another. -/
def expandWithin (catalogue : Catalogue) : Nat → Expansion
  | 0 => fun _ _ _ _ _ => Action.fault .recursion
  | limit + 1 => fun provider options value path found => do
      let resolved ← catalogue.resolve provider options
      let convert := completeConversion (expandWithin catalogue limit)
      tryCatch
        (do return (← catalogue.convertValue convert provider resolved value, found))
        (fun error =>
          match error with
          | .conversion failures reason =>
              return (.null, found ++ providerFailures provider path failures reason)
          | error => throw error)

def Descriptor.convert (catalogue : Catalogue) (node : Descriptor) (value : Value) :
    Action Value :=
  completeConversion (expandWithin catalogue expansionLimit) node value

end RecordSchema
