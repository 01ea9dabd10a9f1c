import RecordSchema.Options.Record
import RecordSchema.Text.Quoted

namespace RecordSchema

/-!
Complaints about options, arguments and settings: why a value is refused, and at which
place.  `Reason.message` holds every wording.
-/

/-- Why a value is refused. -/
inductive Reason where
  | notBoolean
  | unclearBoolean
  | notInteger
  | unreadableInteger
  | fractionalInteger
  | notNumber
  | notText
  | undecodableText
  | notTuple
  | notPath
  | notFinite
  | negative
  | notAmong (names : List String)
  | missing
  | notRecord (recordName : String)
  | alternatives
  | nullableAny
  | optionsNotMapping
  | recordMismatch (kind : Kind) (expected given : String)
  | duplicateNames (names : List String)
  | duplicateKeys (keys : List String)
  | frozen
deriving DecidableEq, Repr

def eitherOf : List String → String
  | [] => ""
  | [name] => quoted name
  | [name, last] => quoted name ++ " or " ++ quoted last
  | name :: names => quoted name ++ ", " ++ eitherOf names

namespace Reason

def ofRecord (text : String) : String := "Value error, " ++ text

def message : Reason → String
  | .notBoolean => "Input should be a valid boolean"
  | .unclearBoolean => "Input should be a valid boolean, unable to interpret input"
  | .notInteger => "Input should be a valid integer"
  | .unreadableInteger => "Input should be a valid integer, unable to parse string as an integer"
  | .fractionalInteger => "Input should be a valid integer, got a number with a fractional part"
  | .notNumber => "Input should be a valid number"
  | .notText => "Input should be a valid string"
  | .undecodableText =>
      "Input should be a valid string, unable to parse raw data as a unicode string"
  | .notTuple => "Input should be a valid tuple"
  | .notPath => "Input is not a valid path for <class 'pathlib.Path'>"
  | .notFinite => "Input should be a finite number"
  | .negative => "Input should be greater than or equal to 0"
  | .notAmong names => "Input should be " ++ eitherOf names
  | .missing => "Field required"
  | .notRecord recordName => "Input should be a valid dictionary or instance of " ++ recordName
  | .alternatives => "Input matches none of the alternatives"
  | .nullableAny =>
      ofRecord "'nullable' is not accepted on 'any' unless allow_nullable_any is enabled"
  | .optionsNotMapping => ofRecord "provider options must be a mapping"
  | .recordMismatch kind expected given => ofRecord s!"{kind.name} takes {expected}, not {given}"
  | .duplicateNames names =>
      ofRecord ("duplicate field name(s): " ++ String.intercalate ", " names)
  | .duplicateKeys keys => ofRecord ("duplicate field key(s): " ++ String.intercalate ", " keys)
  | .frozen => "Instance is frozen"

end Reason

/-- A complaint: an option that is not declared, or a value refused at a place.  The
empty place is the record as a whole. -/
inductive Complaint where
  | undeclared (name : String)
  | invalid (place : List String) (reason : Reason)
deriving DecidableEq, Repr

namespace Complaint

def placeText (place : List String) : String :=
  String.intercalate "." place

def within (outer : String) : Complaint → Complaint
  | .undeclared name => .undeclared name
  | .invalid place reason => .invalid (outer :: place) reason

def describe (label : String) : Complaint → String
  | .undeclared name => s!"option {quoted name} is not valid for {label}"
  | .invalid place reason =>
      if (placeText place).isEmpty then s!"invalid {label}: {reason.message}"
      else s!"invalid value for {label} option {quoted (placeText place)}: {reason.message}"

def brief : Complaint → String
  | .undeclared name => name ++ ": Extra inputs are not permitted"
  | .invalid place reason => placeText place ++ ": " ++ reason.message

def describeAll (label : String) (complaints : List Complaint) : String :=
  String.intercalate "; " (complaints.map (describe label))

def briefAll (complaints : List Complaint) : String :=
  String.intercalate "; " (complaints.map brief)

end Complaint

end RecordSchema
