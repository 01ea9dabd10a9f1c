import RecordSchema.Document.Basic
import RecordSchema.Value.Basic

namespace RecordSchema

/-!
Documents as plain mappings, one entry a clause.
-/

namespace TypeClause

def value : TypeClause → Value
  | .one type => .text type.name
  | .oneOf types => .list (types.map (fun type => .text type.name))

end TypeClause

namespace Members

def values : Members → List Value
  | .integers members => members.map Value.int
  | .texts members => members.map Value.text

end Members

mutual
def Clause.entry : Clause → Value × Value
  | .type types => (.text "type", types.value)
  | .minimum bound => (.text "minimum", .number bound)
  | .maximum bound => (.text "maximum", .number bound)
  | .minLength bound => (.text "minLength", .int bound)
  | .maxLength bound => (.text "maxLength", .int bound)
  | .minItems bound => (.text "minItems", .int bound)
  | .maxItems bound => (.text "maxItems", .int bound)
  | .enum members => (.text "enum", .list members.values)
  | .format format => (.text "format", .text format.documentName)
  | .closed => (.text "additionalProperties", .bool false)
  | .properties properties => (.text "properties", .map .plain (propertyEntries properties))
  | .required keys => (.text "required", .list (keys.map Value.text))
  | .items clauses => (.text "items", .map .plain (clauseEntries clauses))
termination_by structural clause => clause

def clauseEntries : List Clause → List (Value × Value)
  | [] => []
  | clause :: clauses => clause.entry :: clauseEntries clauses
termination_by structural clauses => clauses

def propertyEntries : List (String × List Clause) → List (Value × Value)
  | [] => []
  | (key, clauses) :: rest =>
      (.text key, .map .plain (clauseEntries clauses)) :: propertyEntries rest
termination_by structural properties => properties
end

namespace Document

def edition : String := "http://json-schema.org/draft-07/schema#"

def value (document : Document) : Value :=
  .map .plain (clauseEntries document)

def valueWithEdition (document : Document) : Value :=
  .map .plain ((.text "$schema", .text edition) :: clauseEntries document)

end Document

end RecordSchema
