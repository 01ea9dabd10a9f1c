namespace RecordSchema

/-!
Named texts, as an environment holds them.
-/

abbrev Variables := List (String × String)

namespace Variables

def get? (bindings : Variables) (name : String) : Option String :=
  (List.find? (fun entry => entry.1 = name) bindings).map Prod.snd

def erase (bindings : Variables) (name : String) : Variables :=
  bindings.filter (fun entry => entry.1 ≠ name)

def set : Variables → String → String → Variables
  | [], name, value => [(name, value)]
  | (n, v) :: rest, name, value =>
      if n = name then (n, value) :: rest else (n, v) :: set rest name value

def lower (name : String) : String :=
  String.ofList (name.toList.map Char.toLower)

/-- The last variable whose name is the given one but for case. -/
def getAnyCase? (bindings : Variables) (name : String) : Option String :=
  (bindings.reverse.find? (fun entry => lower entry.1 = lower name)).map Prod.snd

end Variables

end RecordSchema
