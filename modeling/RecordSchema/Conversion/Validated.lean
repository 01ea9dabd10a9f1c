import RecordSchema.Conversion.Basic
import RecordSchema.Document.Validation

namespace RecordSchema

/-!
Validation by compiled documents, and conversion of values that passed it.
-/

namespace Descriptor

def validationLogger : String := "simpleschema.validation"

def issues (catalogue : Catalogue) (node : Descriptor) (value : Value) :
    Action (List Issue) := do
  let document ← node.compileCached catalogue
  return document.issues value

def validate (catalogue : Catalogue) (node : Descriptor) (value : Value) : Action Unit := do
  let issues ← node.issues catalogue value
  if issues.isEmpty then return ()
  else
    Action.write validationLogger Log.debug
      s!"Validation rejected value with {issues.length} issue(s)"
    throw (.invalidInput issues)

def fromValid (catalogue : Catalogue) (node : Descriptor) (value : Value) : Action Value := do
  node.validate catalogue value
  node.convert catalogue value

end Descriptor

end RecordSchema
