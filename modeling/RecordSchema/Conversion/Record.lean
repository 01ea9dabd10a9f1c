import RecordSchema.Value.Entries

namespace RecordSchema

/-!
Records: converted mappings, whose fields are reached by name.  A field wins over a
method of the same name.
-/

/-- What a name reaches on a record. -/
inductive Member where
  | field (value : Value)
  | method
  | absent

def recordMethods : List String :=
  ["clear", "copy", "fromkeys", "get", "items", "keys", "pop", "popitem", "setdefault",
    "update", "values"]

def Member.ofName (entries : Entries) (name : String) : Member :=
  match entries.get? name with
  | some value => .field value
  | none => if recordMethods.contains name then .method else .absent

end RecordSchema
