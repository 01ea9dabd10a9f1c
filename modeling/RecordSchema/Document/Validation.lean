import RecordSchema.Document.Basic
import RecordSchema.Document.Rendering
import RecordSchema.Failure
import RecordSchema.Value.Entries

namespace RecordSchema

/-!
Validation of values against documents.  Every clause raises its own issues, clauses
are checked in the order in which they stand, and the issues are then sorted by location.
-/

namespace TypeName

/-- Whether a value has the type.  Truth values are no numbers; a float without a
fraction is an integer; only lists are arrays. -/
def admits : TypeName → Value → Bool
  | .null, .null => true
  | .boolean, .bool _ => true
  | .integer, .number value => value.isIntegral
  | .number, .number _ => true
  | .string, .text _ => true
  | .array, .list _ => true
  | .object, .map .plain _ => true
  | .object, .map .record _ => true
  | _, _ => false

end TypeName

namespace Members

/-- Whether an enumeration admits a value.  Truth values are not among the integers. -/
def includes : Members → Value → Bool
  | .integers members, .number value => members.any (fun member => value.same (.int member))
  | .texts members, .text value => members.contains value
  | _, _ => false

end Members

namespace Value

def object? : Value → Option Entries
  | .map .plain entries => some entries
  | .map .record entries => some entries
  | _ => none

end Value

namespace Issue

def here (message : String) : Issue := ⟨[], message⟩

def below (step : Value) (issue : Issue) : Issue :=
  { issue with path := step :: issue.path }

end Issue

/-- An issue unless the condition holds. -/
def issueUnless (condition : Bool) (message : String) : List Issue :=
  if condition then [] else [.here message]

namespace Document

def declaredKeys (document : Document) : List String :=
  document.flatMap (fun clause =>
    match clause with
    | .properties properties => properties.map Prod.fst
    | _ => [])

def isDeclared (declared : List String) (key : Value) : Bool :=
  declared.any (fun name => key.eqv (.text name))

def closedIssues (declared : List String) (entries : Entries) : List Issue :=
  let extras := (entries.map Prod.fst).filter (fun key => !isDeclared declared key)
  let sorted := extras.mergeSort (fun a b => decide (a.display ≤ b.display))
  let verb := if extras.length = 1 then "was" else "were"
  let names := commaSeparated (sorted.map Value.source)
  issueUnless extras.isEmpty s!"Additional properties are not allowed ({names} {verb} unexpected)"

end Document

def TypeClause.text (types : TypeClause) : String :=
  commaSeparated (types.names.map (fun type => quoted type.name))

def lengthMessage (value : Value) (least : Nat) : String :=
  value.source ++ (if least = 1 then " should be non-empty" else " is too short")

def excessMessage (value : Value) (most : Nat) : String :=
  value.source ++ (if most = 0 then " is expected to be empty" else " is too long")

mutual
def Clause.issues (declared : List String) : Clause → Value → List Issue
  | .type types, value =>
      issueUnless (types.names.any (fun type => type.admits value))
        (value.source ++ " is not of type " ++ types.text)
  | .minimum bound, .number value =>
      issueUnless (!value.lt bound) s!"{value.text} is less than the minimum of {bound.text}"
  | .maximum bound, .number value =>
      issueUnless (!bound.lt value) s!"{value.text} is greater than the maximum of {bound.text}"
  | .minLength least, .text value =>
      issueUnless (least ≤ value.length) (lengthMessage (.text value) least)
  | .maxLength most, .text value =>
      issueUnless (value.length ≤ most) (excessMessage (.text value) most)
  | .minItems least, .list items =>
      issueUnless (least ≤ items.length) (lengthMessage (.list items) least)
  | .maxItems most, .list items =>
      issueUnless (items.length ≤ most) (excessMessage (.list items) most)
  | .enum members, value =>
      issueUnless (members.includes value)
        s!"{value.source} is not one of {(Value.list members.values).source}"
  | .format .email, .text value =>
      issueUnless (value.toList.contains '@')
        (quoted value ++ " is not a " ++ quoted Format.email.documentName)
  | .closed, value =>
      match value.object? with
      | some entries => Document.closedIssues declared entries
      | none => []
  | .properties properties, value =>
      match value.object? with
      | some entries => propertyIssues properties entries
      | none => []
  | .required keys, value =>
      match value.object? with
      | some entries =>
          keys.flatMap (fun key =>
            issueUnless (Entries.contains entries key) s!"{quoted key} is a required property")
      | none => []
  | .items clauses, .list items =>
      items.zipIdx.flatMap (fun item =>
        (clauseIssues (Document.declaredKeys clauses) clauses item.1).map
          (Issue.below (.int item.2)))
  | _, _ => []
termination_by structural clause => clause

def clauseIssues (declared : List String) : List Clause → Value → List Issue
  | [], _ => []
  | clause :: clauses, value =>
      clause.issues declared value ++ clauseIssues declared clauses value
termination_by structural clauses => clauses

def propertyIssues : List (String × List Clause) → Entries → List Issue
  | [], _ => []
  | (key, clauses) :: rest, entries =>
      (match entries.get? key with
        | some value =>
            (clauseIssues (Document.declaredKeys clauses) clauses value).map
              (Issue.below (.text key))
        | none => [])
        ++ propertyIssues rest entries
termination_by structural properties => properties
end

def textsLe : List String → List String → Bool
  | [], _ => true
  | _ :: _, [] => false
  | a :: as, b :: bs => if a = b then textsLe as bs else a < b

namespace Issue

def sortKey (issue : Issue) : List String :=
  issue.path.map Value.display

end Issue

namespace Document

def rawIssues (document : Document) (value : Value) : List Issue :=
  clauseIssues document.declaredKeys document value

/-- The issues sorted by location; those at one location keep their order. -/
def issues (document : Document) (value : Value) : List Issue :=
  (document.rawIssues value).mergeSort (fun a b => textsLe a.sortKey b.sortKey)

end Document

end RecordSchema
