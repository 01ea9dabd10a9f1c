import Mathlib.Data.List.Sort
import Mathlib.Data.String.Basic
import RecordSchema.Proofs.Descriptor.Checked
import RecordSchema.Proofs.Document.Nodes
import RecordSchema.Proofs.Value.Parts

namespace RecordSchema

/-! The entries of a rendered document.  Every keyword stands in it at most once, in one
order for all documents, and a keyword that is found is that of a clause. -/

def Clause.keyword : Clause → String
  | .type _ => "type"
  | .minimum _ => "minimum"
  | .maximum _ => "maximum"
  | .minLength _ => "minLength"
  | .maxLength _ => "maxLength"
  | .minItems _ => "minItems"
  | .maxItems _ => "maxItems"
  | .enum _ => "enum"
  | .format _ => "format"
  | .closed => "additionalProperties"
  | .properties _ => "properties"
  | .required _ => "required"
  | .items _ => "items"

@[simp] theorem Clause.fst_entry (clause : Clause) : clause.entry.1 = .text clause.keyword := by
  cases clause <;> rfl

namespace Document

/-- The keywords of documents that have no documents below them. -/
def scalarKeywords : List String :=
  ["type", "minimum", "maximum", "minLength", "maxLength", "enum", "format"]

def keywords : List String :=
  scalarKeywords ++
    ["items", "minItems", "maxItems", "additionalProperties", "properties", "required"]

theorem map_fst_clauseEntries (document : Document) :
    (clauseEntries document).map Prod.fst = (document.map Clause.keyword).map .text := by
  induction document with
  | nil => rfl
  | cons clause rest induction =>
      rw [clauseEntries, List.map_cons, List.map_cons, List.map_cons, Clause.fst_entry, induction]

theorem exists_clause {document : Document} {name : String} {value : Value}
    (found : Entries.get? (clauseEntries document) name = some value) :
    ∃ clause ∈ document, clause.keyword = name ∧ clause.entry.2 = value := by
  induction document with
  | nil => exact nomatch found
  | cons clause rest induction =>
      rw [clauseEntries, show clause.entry = (.text clause.keyword, clause.entry.2) from
        Prod.ext clause.fst_entry rfl] at found
      by_cases here : clause.keyword = name
      · rw [here, Entries.get?_cons_self] at found
        exact ⟨clause, .head _, here, Option.some.inj found⟩
      · rw [Entries.get?_cons_of_ne (by simpa using here)] at found
        obtain ⟨other, among, named⟩ := induction found
        exact ⟨other, .tail _ among, named⟩

/-! ### One order of keywords -/

/-- The keywords of the document are some of the names, each once, in the order of these. -/
def Lists (names : List String) (document : Document) : Prop :=
  (document.map Clause.keyword).Sublist names

section Lists

variable {names others : List String} {name : String} {first second : Document}

theorem Lists.append (left : first.Lists names) (right : second.Lists others) :
    Lists (names ++ others) (first ++ second) := by
  unfold Lists
  rw [List.map_append]
  exact List.Sublist.append left right

theorem Lists.within (lists : first.Lists names) (order : names.Sublist others) :
    first.Lists others :=
  lists.trans order

theorem lists_type (types : TypeClause) : Lists ["type"] [.type types] :=
  .refl _

theorem lists_clauseOf {make : α → Clause} (named : ∀ bound, (make bound).keyword = name)
    (given : Option α) : Lists [name] (clauseOf make given) := by
  cases given with
  | none => exact List.nil_sublist _
  | some bound =>
      rw [← named bound]
      exact .refl _

theorem lists_enumClause (members : List α → Members) (given : Option (List α)) :
    Lists ["enum"] (enumClause members given) := by
  match given with
  | none => exact List.nil_sublist _
  | some [] => exact List.nil_sublist _
  | some (_ :: _) => exact .refl _

theorem lists_primitive (options : Primitive) : options.document.Lists scalarKeywords := by
  have type (types : TypeClause) : Lists scalarKeywords [.type types] :=
    (lists_type types).within (by decide)
  cases options with
  | any nullable => exact type _
  | null => exact type _
  | boolean nullable => exact type _
  | integer o =>
      have least : Lists ["minimum"] (clauseOf (fun bound => .minimum (.int bound)) o.minimum) :=
        lists_clauseOf (fun _ => by rfl) _
      have most : Lists ["maximum"] (clauseOf (fun bound => .maximum (.int bound)) o.maximum) :=
        lists_clauseOf (fun _ => by rfl) _
      have bounds := ((lists_type (TypeName.integer.orNull o.nullable)).append least).append most
      exact (bounds.append (lists_enumClause Members.integers o.enum)).within (by decide)
  | number o =>
      have least : Lists ["minimum"] (clauseOf Clause.minimum o.minimum) :=
        lists_clauseOf (fun _ => by rfl) _
      have most : Lists ["maximum"] (clauseOf Clause.maximum o.maximum) :=
        lists_clauseOf (fun _ => by rfl) _
      exact (((lists_type _).append least).append most).within (by decide)
  | string o =>
      have least : Lists ["minLength"] (clauseOf Clause.minLength o.minLength) :=
        lists_clauseOf (fun _ => by rfl) _
      have most : Lists ["maxLength"] (clauseOf Clause.maxLength o.maxLength) :=
        lists_clauseOf (fun _ => by rfl) _
      have format : Lists ["format"] (clauseOf Clause.format o.format) :=
        lists_clauseOf (fun _ => by rfl) _
      have bounds := ((lists_type (TypeName.string.orNull o.nullable)).append least).append most
      have members := lists_enumClause Members.texts o.enum
      exact ((bounds.append members).append format).within (by decide)

theorem lists_bounds (options : ArrayOptions) :
    options.clauses.Lists ["minItems", "maxItems"] := by
  have least : Lists ["minItems"] (clauseOf Clause.minItems options.minItems) :=
    lists_clauseOf (fun _ => by rfl) _
  have most : Lists ["maxItems"] (clauseOf Clause.maxItems options.maxItems) :=
    lists_clauseOf (fun _ => by rfl) _
  exact least.append most

theorem lists_array (types : TypeClause) (items : Document) (options : ArrayOptions) :
    Lists keywords (.type types :: .items items :: options.clauses) := by
  have items : Lists ["items"] [.items items] := .refl _
  exact (((lists_type types).append items).append (lists_bounds options)).within (by decide)

theorem lists_mapping (fields : List Field) (nullable : Bool)
    (properties : List (String × Document)) :
    Lists keywords (mappingDocument fields nullable properties) := by
  have required : Lists ["required"] (if (Descriptor.requiredKeys fields).isEmpty then []
      else [.required (Descriptor.requiredKeys fields)]) := by
    split
    · exact List.nil_sublist _
    · exact .refl _
  have first : Lists ["type", "additionalProperties", "properties"]
      [.type (TypeName.object.orNull nullable), .closed, .properties properties] := .refl _
  exact (first.append required).within (by decide)

end Lists

end Document

/-! ### Required keys -/

namespace Descriptor

/-- Keys that no two fields share are listed in strictly ascending order. -/
theorem requiredKeys_ascending {fields : List Field} (distinct : (fields.map Field.wireKey).Nodup) :
    (requiredKeys fields).Pairwise (· < ·) :=
  ascending_of_nodup ((List.filter_sublist.map _).nodup distinct)

end Descriptor

end RecordSchema
