import RecordSchema.Failure
import RecordSchema.Options.Complaint

namespace RecordSchema

/-!
Errors.  A definition error says what is wrong with a description, a conversion error
lists failures or gives a provider's reason, and an invalid input lists issues.
-/

/-- What is wrong with a description. -/
inductive DefinitionError where
  | refused (label : String) (complaints : List Complaint)
  | notPair (spec : Value)
  | optionalNotBoolean (given : Value)
  | keyNotText (given : Value)
  | nameNotText (given : Value)
  | elementCount (count : Nat)
  | notDescription (spec : Value)
  | unknownName (name : String) (known : List String)
  | notProvider (name : String) (missing : List Operation)
  | notInstantiable (typeName refusal : String)
  | alreadyRegistered (name : String)
  | notRegistered (name : String)
  | notCompilable (node : Value)
  | notConvertible (node : Value)
  | emptyTemplate
  | unreadableTemplate
  | stated (text : String)

namespace DefinitionError

def message : DefinitionError → String
  | .refused label complaints => Complaint.describeAll label complaints
  | .notPair spec => s!"typed shorthand must be a (descriptor, options) pair, got {spec.source}"
  | .optionalNotBoolean given => s!"'optional' must be a boolean, got {given.source}"
  | .keyNotText given => s!"'key' must be a string, got {given.source}"
  | .nameNotText given => s!"field names must be strings, got {given.source}"
  | .elementCount count =>
      s!"array descriptors take exactly one element descriptor, got {count}"
  | .notDescription spec => s!"{spec.source} is not a schema description"
  | .unknownName name known =>
      let names := if known.isEmpty then "none" else commaSeparated known
      s!"unknown schema kind or provider {quoted name} (registered providers: {names})"
  | .notProvider name missing =>
      s!"{name} is not a schema provider: missing {commaSeparated (missing.map Operation.name)}"
  | .notInstantiable typeName refusal =>
      s!"schema provider {typeName} cannot be instantiated: {refusal}"
  | .alreadyRegistered name => s!"schema provider {quoted name} is already registered"
  | .notRegistered name => s!"schema provider {quoted name} is not registered"
  | .notCompilable node => s!"cannot compile {node.source}"
  | .notConvertible node => s!"cannot convert against {node.source}"
  | .emptyTemplate => "template is empty"
  | .unreadableTemplate => "template is not valid YAML"
  | .stated text => text

def isAlternatives : DefinitionError → Bool
  | .refused _ complaints =>
      complaints.any (fun complaint =>
        match complaint with
        | .invalid _ .alternatives => true
        | _ => false)
  | _ => false

end DefinitionError

inductive Error where
  | definition (cause : DefinitionError)
  | conversion (failures : List Failure) (reason : Value)
  | invalidInput (issues : List Issue)
  | refused (complaints : List Complaint)
  | fault (fault : Fault)

namespace Error

/-- The error whose message shows a value; a value without a source makes a fault of it. -/
def showing (shown : Value) (cause : DefinitionError) : Error :=
  if shown.hasSource then .definition cause else .fault .value

def listing (items : List String) (what : String) : String :=
  String.intercalate "\n" (s!"{items.length} {what}:" :: items.map ("  " ++ ·))

def conversionMessage (failures : List Failure) (reason : Value) : String :=
  match failures, reason with
  | [], .null => "conversion failed"
  | [], reason => reason.display
  | failures, _ => listing (failures.map Failure.text) "conversion failure(s)"

def invalidInputMessage (issues : List Issue) : String :=
  listing (issues.map Issue.text) "validation issue(s)"

end Error

end RecordSchema
