import RecordSchema.Options.Record

namespace RecordSchema

/-!
Documents: what a description says, as clauses over JSON types.  Clauses stand in the
order in which they are written and checked.
-/

inductive TypeName where
  | array
  | boolean
  | integer
  | null
  | number
  | object
  | string
deriving DecidableEq, Repr

def TypeName.name : TypeName → String
  | .array => "array"
  | .boolean => "boolean"
  | .integer => "integer"
  | .null => "null"
  | .number => "number"
  | .object => "object"
  | .string => "string"

def TypeName.all : List TypeName :=
  [.array, .boolean, .integer, .null, .number, .object, .string]

/-- The types a value may have: one type, or any of several. -/
inductive TypeClause where
  | one (type : TypeName)
  | oneOf (types : List TypeName)
deriving DecidableEq, Repr

def TypeClause.names : TypeClause → List TypeName
  | .one type => [type]
  | .oneOf types => types

/-- The values an enumeration admits. -/
inductive Members where
  | integers (members : List Int)
  | texts (members : List String)
deriving DecidableEq, Repr

inductive Clause where
  | type (types : TypeClause)
  | minimum (bound : Number)
  | maximum (bound : Number)
  | minLength (bound : Nat)
  | maxLength (bound : Nat)
  | minItems (bound : Nat)
  | maxItems (bound : Nat)
  | enum (members : Members)
  | format (format : Format)
  | closed
  | properties (properties : List (String × List Clause))
  | required (keys : List String)
  | items (clauses : List Clause)
deriving Repr

abbrev Document := List Clause

def Format.documentName : Format → String
  | .datetime => "date-time"
  | .email => "email"

end RecordSchema
