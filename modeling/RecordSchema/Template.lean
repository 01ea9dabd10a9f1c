import RecordSchema.Descriptor.Shorthand
import RecordSchema.Text.Utf8
import RecordSchema.Yaml.Meaning

namespace RecordSchema

/-!
Templates: descriptions kept as YAML texts, in files or in memory.
-/

namespace Template

def specification (text : String) : Action Value :=
  match Yaml.valueOfText? text with
  | .ok (some .null) => Action.fail .emptyTemplate
  | .ok (some spec) => pure spec
  | .ok none => Action.fail .emptyTemplate
  | .error .malformed => Action.fail .unreadableTemplate
  | .error (.fault fault) => Action.fault fault

/-- The node that a text describes.  Names are looked up in the registry given, or in
the one of the session. -/
def load (text : String) (registry : Option Registry) : Action Descriptor := do
  (← specification text).parse [] registry

def loadFile (content : Option (List UInt8)) (registry : Option Registry) :
    Action Descriptor :=
  match content with
  | none => Action.fault .missingFile
  | some data =>
      match textOfUtf8? data with
      | some text => load text registry
      | none => Action.fault .undecodableFile

end Template

end RecordSchema
