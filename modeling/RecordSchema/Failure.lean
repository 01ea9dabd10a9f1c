import RecordSchema.Value.Printing

namespace RecordSchema

/-!
What can be wrong with data, and where: failures of a conversion and issues of a
validation.
-/

/-- The keys and positions that lead to a part of a value. -/
abbrev Location := List Value

namespace Location

def text (location : Location) : String :=
  "/" ++ String.intercalate "/" (location.map Value.display)

@[simp] theorem text_nil : text [] = "/" := rfl

end Location

inductive FailureKind where
  | stated
  | unknownField (key : String)
  | shapeMismatch (expected actual : String)
  | providerRejection (provider : String) (reason : Value)

structure Failure where
  path : Location
  message : String
  kind : FailureKind

namespace Failure

def unknownField (path : Location) (key : String) : Failure :=
  ⟨path, "", .unknownField key⟩

def shapeMismatch (path : Location) (expected : String) (actual : Value) : Failure :=
  ⟨path, "", .shapeMismatch expected actual.shapeName⟩

def providerRejection (path : Location) (provider : String) (reason : Value) : Failure :=
  ⟨path, "", .providerRejection provider reason⟩

def describe (failure : Failure) : String :=
  match failure.kind with
  | .stated => failure.message
  | .unknownField key => "unknown field " ++ quoted key
  | .shapeMismatch expected actual => s!"expected {expected}, got {actual}"
  | .providerRejection provider reason => s!"{provider} rejected value: {reason.display}"

def text (failure : Failure) : String :=
  failure.path.text ++ ": " ++ failure.describe

def rebase (failure : Failure) (outer : Location) : Failure :=
  { failure with path := outer ++ failure.path }

@[simp] theorem rebase_nil (failure : Failure) : failure.rebase [] = failure := rfl

theorem rebase_append (failure : Failure) (outer inner : Location) :
    failure.rebase (outer ++ inner) = (failure.rebase inner).rebase outer := by
  simp [rebase, List.append_assoc]

@[simp] theorem describe_rebase (failure : Failure) (outer : Location) :
    (failure.rebase outer).describe = failure.describe := rfl

end Failure

/-- A complaint about a value that does not satisfy a document. -/
structure Issue where
  path : Location
  message : String

namespace Issue

def text (issue : Issue) : String :=
  issue.path.text ++ ": " ++ issue.message

end Issue

end RecordSchema
