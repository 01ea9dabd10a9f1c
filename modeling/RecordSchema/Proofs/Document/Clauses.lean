import RecordSchema.Document.Compilation
import RecordSchema.Document.Validation
import RecordSchema.Proofs.Descriptor.Satisfaction
import RecordSchema.Proofs.Value.Keys

namespace RecordSchema

/-! When clauses raise no issue.  Every clause is checked on its own, so a document
accepts a value iff each of its clauses does. -/

theorem Value.object?_eq_some {value : Value} {entries : Entries} :
    value.object? = some entries ↔ value.IsDict entries := by
  unfold Value.IsDict
  constructor
  · intro found
    cases value with
    | map kind given =>
        cases kind with
        | plain =>
            cases found
            exact .inl rfl
        | record =>
            cases found
            exact .inr rfl
        | readOnly => exact nomatch found
    | _ => exact nomatch found
  · rintro (rfl | rfl) <;> rfl

theorem issueUnless_eq_nil {condition : Bool} {message : String} :
    issueUnless condition message = [] ↔ condition = true := by
  cases condition <;> simp [issueUnless]

theorem clauseIssues_eq_nil (declared : List String) (value : Value) (clauses : List Clause) :
    clauseIssues declared clauses value = [] ↔
      ∀ clause ∈ clauses, clause.issues declared value = [] := by
  induction clauses with
  | nil => simp [clauseIssues]
  | cons clause rest induction => simp [clauseIssues, induction]

namespace Document

def Accepts (document : Document) (value : Value) : Prop :=
  document.issues value = []

theorem accepts_iff_rawIssues {document : Document} {value : Value} :
    document.Accepts value ↔ document.rawIssues value = [] := by
  unfold Accepts issues
  rw [← List.length_eq_zero_iff, List.length_mergeSort, List.length_eq_zero_iff]

end Document

/-! ### Types -/

namespace TypeName

def Holds : TypeName → Value → Prop
  | .null, value => value = .null
  | .boolean, value => Kind.boolean.Holds value
  | .integer, value => Kind.integer.Holds value
  | .number, value => Kind.number.Holds value
  | .string, value => Kind.string.Holds value
  | .array, value => ∃ items, value = .list items
  | .object, value => ∃ entries, value.IsDict entries

theorem admits_iff (type : TypeName) (value : Value) :
    type.admits value = true ↔ type.Holds value := by
  cases type with
  | object =>
      cases value with
      | map kind entries => cases kind <;> simp [admits, Holds, Value.IsDict]
      | _ => simp [admits, Holds, Value.IsDict]
  | _ => cases value <;> simp [admits, Holds, Kind.Holds]

theorem any_all_admits {value : Value} :
    all.any (fun type => type.admits value) = true ↔ Kind.any.Holds value := by
  simp only [all, List.any_cons, List.any_nil, Bool.or_false, Bool.or_eq_true, admits_iff, Holds,
    Kind.Holds]
  constructor
  · rintro (list | truth | whole | null | number | dict | text)
    · exact .inr (.inr (.inr (.inr (.inl list))))
    · exact .inr (.inl truth)
    · obtain ⟨number, rfl, integral⟩ := whole
      exact .inr (.inr (.inl ⟨number, rfl⟩))
    · exact .inl null
    · exact .inr (.inr (.inl number))
    · exact .inr (.inr (.inr (.inr (.inr dict))))
    · exact .inr (.inr (.inr (.inl text)))
  · rintro (null | truth | number | text | list | dict)
    · exact .inr (.inr (.inr (.inl null)))
    · exact .inr (.inl truth)
    · exact .inr (.inr (.inr (.inr (.inl number))))
    · exact .inr (.inr (.inr (.inr (.inr (.inr text)))))
    · exact .inl list
    · exact .inr (.inr (.inr (.inr (.inr (.inl dict)))))

theorem any_orNull_admits {type : TypeName} {nullable : Bool} {value : Value} :
    (type.orNull nullable).names.any (fun type => type.admits value) = true ↔
      type.Holds value ∨ value = .null ∧ nullable = true := by
  cases nullable <;> simp [orNull, TypeClause.names, admits_iff, Holds]

end TypeName

/-! ### Single clauses -/

namespace Clause

/-- What a clause asks of a value. -/
def Asks (declared : List String) : Clause → Value → Prop
  | .type types, value => types.names.any (fun type => type.admits value) = true
  | .minimum bound, value => ∀ number, value = .number number → ¬ number.Below bound
  | .maximum bound, value => ∀ number, value = .number number → ¬ bound.Below number
  | .minLength least, value => ∀ text, value = .text text → least ≤ text.length
  | .maxLength most, value => ∀ text, value = .text text → text.length ≤ most
  | .minItems least, value => ∀ items, value = .list items → least ≤ items.length
  | .maxItems most, value => ∀ items, value = .list items → items.length ≤ most
  | .enum members, value => members.includes value = true
  | .format kind, value =>
      kind = .email → ∀ text, value = .text text → '@' ∈ text.toList
  | .closed, value => ∀ entries, value.IsDict entries →
      ∀ entry ∈ entries, ∃ name ∈ declared, entry.1 = .text name
  | .required keys, value => ∀ entries, value.IsDict entries →
      ∀ key ∈ keys, ∃ item, entries.get? key = some item
  | .properties parts, value => ∀ entries, value.IsDict entries →
      ∀ property ∈ parts, ∀ item, entries.get? property.1 = some item →
        Document.Accepts property.2 item
  | .items document, value => ∀ items, value = .list items →
      ∀ item ∈ items, Document.Accepts document item

variable {declared : List String} {value : Value}

theorem object_issues {raise : Entries → List Issue} :
    (match value.object? with
      | some entries => raise entries
      | none => []) = [] ↔ ∀ entries, value.IsDict entries → raise entries = [] := by
  cases object : value.object? with
  | none =>
      simp only [true_iff]
      intro entries dict
      rw [Value.object?_eq_some.mpr dict] at object
      exact nomatch object
  | some entries =>
      have only : ∀ other, value.IsDict other ↔ entries = other := by
        intro other
        rw [← Value.object?_eq_some, object, Option.some.injEq]
      simp [only]

theorem propertyIssues_eq_nil (entries : Entries) (properties : List (String × Document)) :
    propertyIssues properties entries = [] ↔
      ∀ property ∈ properties, ∀ item, entries.get? property.1 = some item →
        Document.Accepts property.2 item := by
  induction properties with
  | nil => simp [propertyIssues]
  | cons property rest induction =>
      obtain ⟨key, document⟩ := property
      rw [propertyIssues, List.append_eq_nil_iff, induction, List.forall_mem_cons]
      refine and_congr ?_ Iff.rfl
      cases entries.get? key with
      | none => simp
      | some item =>
          simp only [List.map_eq_nil_iff, Option.some.injEq, forall_eq']
          exact Document.accepts_iff_rawIssues.symm

theorem itemIssues_eq_nil (document : Document) (items : List Value) :
    items.zipIdx.flatMap (fun item =>
      (clauseIssues document.declaredKeys document item.1).map (Issue.below (.int item.2))) = [] ↔
      ∀ item ∈ items, document.Accepts item := by
  have each (item : Value) :
      clauseIssues document.declaredKeys document item = [] ↔ document.Accepts item :=
    Document.accepts_iff_rawIssues.symm
  simp only [List.flatMap_eq_nil_iff, List.map_eq_nil_iff, each]
  constructor
  · intro accepted item member
    obtain ⟨position, bound, found⟩ := List.getElem_of_mem member
    exact accepted (item, position) (by
      rw [List.mem_zipIdx_iff_getElem?, ← found, List.getElem?_eq_getElem bound])
  · intro accepted item member
    rw [List.mem_zipIdx_iff_getElem?] at member
    exact accepted item.1 (List.mem_of_getElem? member)

/-- A clause raises no issue iff it has what it asks for. -/
theorem issues_eq_nil (clause : Clause) :
    clause.issues declared value = [] ↔ clause.Asks declared value := by
  cases clause with
  | type types => rw [issues, issueUnless_eq_nil, Asks]
  | enum members => rw [issues, issueUnless_eq_nil, Asks]
  | closed =>
      apply object_issues.trans
      simp [Document.closedIssues, issueUnless_eq_nil, Document.isDeclared, Asks]
  | required keys =>
      apply object_issues.trans
      simp [issueUnless_eq_nil, Entries.contains_iff, Asks]
  | properties parts =>
      apply object_issues.trans
      simp only [propertyIssues_eq_nil, Asks]
  | items document =>
      cases value with
      | list items =>
          simp only [issues, itemIssues_eq_nil, Asks, Value.list.injEq, forall_eq']
      | _ => simp [issues, Asks]
  | format kind =>
      cases kind with
      | datetime => cases value <;> simp [issues, Asks]
      | email => cases value <;> simp [issues, issueUnless_eq_nil, Asks]
  | _ => cases value <;> simp [issues, issueUnless_eq_nil, Asks, ← Number.lt_iff_below]

end Clause

theorem Document.accepts_iff {document : Document} {value : Value} :
    document.Accepts value ↔ ∀ clause ∈ document, clause.Asks document.declaredKeys value := by
  rw [accepts_iff_rawIssues, rawIssues, clauseIssues_eq_nil]
  simp only [Clause.issues_eq_nil]

/-! ### The documents of nodes -/

theorem forall_mem_clauseOf {make : α → Clause} {given : Option α} {keeps : Clause → Prop} :
    (∀ clause ∈ clauseOf make given, keeps clause) ↔ ∀ bound ∈ given, keeps (make bound) := by
  cases given <;> simp [clauseOf]

theorem forall_mem_enumClause {make : List α → Members} {given : Option (List α)}
    {keeps : Clause → Prop} :
    (∀ clause ∈ enumClause make given, keeps clause) ↔
      (given.getD [] ≠ [] → keeps (.enum (make (given.getD [])))) := by
  match given with
  | none => simp [enumClause]
  | some [] => simp [enumClause]
  | some (member :: rest) => simp [enumClause]

namespace Members

theorem includes_integers {members : List Int} {value : Value} :
    (integers members).includes value = true ↔
      ∃ member ∈ members.map Value.int, value.EqualsMember member := by
  cases value <;>
    simp [includes, Value.EqualsMember, Value.int, Number.same_int_iff]

theorem includes_texts {members : List String} {value : Value} :
    (texts members).includes value = true ↔
      ∃ member ∈ members.map Value.text, value.EqualsMember member := by
  cases value <;> simp [includes, Value.EqualsMember]

end Members

end RecordSchema
