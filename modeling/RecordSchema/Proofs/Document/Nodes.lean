import RecordSchema.Proofs.Document.Clauses

namespace RecordSchema

/-! What the documents of primitives, mappings and arrays accept, given what those of
their parts do. -/

theorem Primitive.document_accepts (options : Primitive) (value : Value) :
    options.document.Accepts value ↔ options.Admits value := by
  rw [Document.accepts_iff, Primitive.admits_iff]
  cases options with
  | any nullable =>
      simp only [document, List.forall_mem_singleton, Clause.Asks, TypeClause.names,
        TypeName.any_all_admits]
      have null : value = .null → Kind.any.Holds value := .inl
      simpa [kind, minimum, maximum, minLength, maxLength, members, format] using
        fun isNull _ => null isNull
  | null =>
      simp [document, Clause.Asks, TypeClause.names, TypeName.admits_iff, TypeName.Holds, kind,
        Kind.Holds, nullable, minimum, maximum, minLength, maxLength, members, format]
  | boolean nullable =>
      simp only [document, List.forall_mem_singleton, Clause.Asks, TypeName.any_orNull_admits,
        TypeName.Holds]
      simp [kind, Primitive.nullable, minimum, maximum, minLength, maxLength, members, format]
  | integer options =>
      simp only [document, List.forall_mem_cons, List.forall_mem_append, List.cons_append,
        forall_mem_clauseOf, forall_mem_enumClause, Clause.Asks, Members.includes_integers,
        TypeName.any_orNull_admits, TypeName.Holds]
      simp [kind, Primitive.nullable, minimum, maximum, minLength, maxLength, members, format,
        and_assoc]
  | number options =>
      simp only [document, List.forall_mem_cons, List.forall_mem_append, List.cons_append,
        forall_mem_clauseOf, Clause.Asks, TypeName.any_orNull_admits, TypeName.Holds]
      simp [kind, Primitive.nullable, minimum, maximum, minLength, maxLength, members, format]
  | string options =>
      simp only [document, List.forall_mem_cons, List.forall_mem_append, List.cons_append,
        forall_mem_clauseOf, forall_mem_enumClause, Clause.Asks, Members.includes_texts,
        TypeName.any_orNull_admits, TypeName.Holds]
      simp [kind, Primitive.nullable, minimum, maximum, minLength, maxLength, members, format,
        and_assoc]

theorem mappingDocument_declaredKeys (fields : List Field) (nullable : Bool)
    (properties : List (String × Document)) :
    (mappingDocument fields nullable properties).declaredKeys = properties.map Prod.fst := by
  unfold mappingDocument Document.declaredKeys
  cases Descriptor.requiredKeys fields <;> simp

theorem mem_requiredKeys {fields : List Field} {key : String} :
    key ∈ Descriptor.requiredKeys fields ↔
      ∃ field ∈ fields, field.optional = false ∧ field.wireKey = key := by
  simp [Descriptor.requiredKeys, and_assoc]

theorem forall_mem_mappingDocument {fields : List Field} {nullable : Bool}
    {properties : List (String × Document)} {keeps : Clause → Prop}
    (trivial : keeps (.required [])) :
    (∀ clause ∈ mappingDocument fields nullable properties, keeps clause) ↔
      keeps (.type (TypeName.object.orNull nullable)) ∧ keeps .closed ∧
        keeps (.properties properties) ∧ keeps (.required (Descriptor.requiredKeys fields)) := by
  unfold mappingDocument
  cases required : Descriptor.requiredKeys fields with
  | nil => simp [trivial]
  | cons key rest => simp

theorem mappingDocument_accepts {fields : List Field} {nullable : Bool}
    {properties : List (String × Document)} {value : Value} :
    (mappingDocument fields nullable properties).Accepts value ↔
      value = .null ∧ nullable = true ∨
        ∃ entries, value.IsDict entries ∧
          (∀ entry ∈ entries, ∃ name ∈ properties.map Prod.fst, entry.1 = .text name) ∧
          (∀ field ∈ fields, field.optional = false →
            ∃ item, entries.get? field.wireKey = some item) ∧
          ∀ property ∈ properties, ∀ item, entries.get? property.1 = some item →
            property.2.Accepts item := by
  have unrequired : ∀ declared, (Clause.required []).Asks declared value := by
    intro declared entries _ key member
    exact nomatch member
  rw [Document.accepts_iff, mappingDocument_declaredKeys,
    forall_mem_mappingDocument (unrequired _)]
  simp only [Clause.Asks, TypeName.any_orNull_admits, TypeName.Holds]
  constructor
  · rintro ⟨⟨entries, dict⟩ | null, closed, inside, present⟩
    · refine .inr ⟨entries, dict, closed entries dict, ?_, inside entries dict⟩
      intro field member mandatory
      exact present entries dict field.wireKey
        (mem_requiredKeys.mpr ⟨field, member, mandatory, rfl⟩)
    · exact .inl null
  · rintro (⟨rfl, admitted⟩ | ⟨entries, dict, closed, present, inside⟩)
    · have noDict : ∀ entries, ¬ Value.null.IsDict entries := by
        rintro entries (plain | record)
        · cases plain
        · cases record
      exact ⟨.inr ⟨rfl, admitted⟩, fun entries dict => absurd dict (noDict entries),
        fun entries dict => absurd dict (noDict entries),
        fun entries dict => absurd dict (noDict entries)⟩
    · have only : ∀ other, value.IsDict other → other = entries := by
        intro other also
        rw [← Value.object?_eq_some] at dict also
        exact Option.some.inj (also.symm.trans dict)
      refine ⟨.inl ⟨entries, dict⟩, ?_, ?_, ?_⟩
      · intro other also
        rw [only other also]
        exact closed
      · intro other also
        rw [only other also]
        exact inside
      · intro other also key required
        rw [only other also]
        obtain ⟨field, member, mandatory, rfl⟩ := mem_requiredKeys.mp required
        exact present field member mandatory

theorem arrayDocument_accepts {options : ArrayOptions} {items : Document} {value : Value} :
    Document.Accepts
        (.type (TypeName.array.orNull options.nullable) :: .items items :: options.clauses)
        value ↔
      value = .null ∧ options.nullable = true ∨
        ∃ list, value = .list list ∧ options.Allows list.length ∧
          ∀ item ∈ list, items.Accepts item := by
  rw [Document.accepts_iff]
  simp only [List.forall_mem_cons, ArrayOptions.clauses, List.forall_mem_append,
    forall_mem_clauseOf, Clause.Asks, TypeName.any_orNull_admits, TypeName.Holds]
  constructor
  · rintro ⟨⟨list, rfl⟩ | null, inside, long, short⟩
    · exact .inr ⟨list, rfl, ⟨fun least given => long least given list rfl,
        fun most given => short most given list rfl⟩, inside list rfl⟩
    · exact .inl null
  · rintro (⟨rfl, admitted⟩ | ⟨list, rfl, ⟨long, short⟩, inside⟩)
    · exact ⟨.inr ⟨rfl, admitted⟩, by simp, by simp, by simp⟩
    · refine ⟨.inl ⟨list, rfl⟩, ?_, ?_, ?_⟩
      · rintro _ ⟨⟩
        exact inside
      · rintro least given _ ⟨⟩
        exact long least given
      · rintro most given _ ⟨⟩
        exact short most given

end RecordSchema
