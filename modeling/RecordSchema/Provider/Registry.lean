import RecordSchema.Value.Basic

namespace RecordSchema

/-!
A registry maps names to providers.  Names are kept in the order in which they were
first registered and listed in ascending order.
-/

structure Registry where
  entries : List (String × Value) := []

namespace Registry

def get? (registry : Registry) (name : String) : Option Value :=
  (registry.entries.find? (fun entry => entry.1 = name)).map Prod.snd

def contains (registry : Registry) (name : String) : Bool :=
  registry.entries.any (fun entry => entry.1 = name)

def size (registry : Registry) : Nat :=
  registry.entries.length

def isEmpty (registry : Registry) : Bool :=
  registry.entries.isEmpty

def put : List (String × Value) → String → Value → List (String × Value)
  | [], name, provider => [(name, provider)]
  | (n, p) :: rest, name, provider =>
      if n = name then (n, provider) :: rest else (n, p) :: put rest name provider

def insert (registry : Registry) (name : String) (provider : Value) : Registry :=
  ⟨put registry.entries name provider⟩

def erase (registry : Registry) (name : String) : Registry :=
  ⟨registry.entries.filter (fun entry => entry.1 ≠ name)⟩

def names (registry : Registry) : List String :=
  (registry.entries.map Prod.fst).mergeSort (fun a b => decide (a ≤ b))

def orElse (registry : Option Registry) (fallback : Registry) : Registry :=
  match registry with
  | some registry => if registry.isEmpty then fallback else registry
  | none => fallback

end Registry

end RecordSchema
