import RecordSchema.Settings.Assignment

namespace RecordSchema

/-!
Where settings come from: variables of the environment, and those that a text assigns.
-/

structure Environment where
  bindings : Variables := []
  assignments : Variables := []
deriving Repr

namespace Environment

def home (environment : Environment) : String :=
  (environment.bindings.get? "HOME").getD "/"

def text? (environment : Environment) (name : String) : Option String :=
  environment.bindings.getAnyCase? name <|> environment.assignments.getAnyCase? name

def assigning (environment : Environment) (text : String) : Environment :=
  { environment with assignments := Variables.ofText environment.bindings text }

end Environment

end RecordSchema
