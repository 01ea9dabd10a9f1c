import RecordSchema.Conversion.Basic
import RecordSchema.Proofs.Descriptor.Satisfaction
import RecordSchema.Proofs.Value.Parts

namespace RecordSchema

/-! The walk of a conversion over a value that the node admits.  It meets the parts that
the node has an opinion on and nothing else. -/

def Value.KeysDistinctHere : Value → Prop
  | .map _ entries => entries.Pairwise (fun a b => a.1.eqv b.1 = false)
  | _ => True

/-- No mapping in the value has two equal keys. -/
def Value.KeysDistinct : Value → Prop :=
  Every KeysDistinctHere

theorem Entries.get?_of_mem {name : String} {item : Value} {entries : Entries}
    (distinct : entries.Pairwise (fun a b => a.1.eqv b.1 = false))
    (member : (Value.text name, item) ∈ entries) : entries.get? name = some item := by
  induction entries with
  | nil => exact nomatch member
  | cons entry rest induction =>
      obtain ⟨key, first⟩ := entry
      rw [List.pairwise_cons] at distinct
      rcases List.mem_cons.mp member with same | tail
      · cases same
        exact Entries.get?_cons_self name item rest
      · have differs : key ≠ .text name := by
          rintro rfl
          have unequal := distinct.1 _ tail
          rw [Bool.eq_false_iff] at unequal
          exact unequal ((Value.eqv_text_left name _).mpr rfl)
        rw [Entries.get?_cons_of_ne differs]
        exact induction distinct.2 tail

theorem Field.ofKey?_eq_some {fields : List Field} {key : Value} {field : Field}
    (found : Field.ofKey? fields key = some field) :
    field ∈ fields ∧ key = .text field.wireKey :=
  ⟨List.mem_of_find?_eq_some found, by simpa using List.find?_some found⟩

theorem Field.exists_ofKey? {fields : List Field} {key : Value} {field : Field}
    (member : field ∈ fields) (same : key = .text field.wireKey) :
    ∃ first, Field.ofKey? fields key = some first := by
  rw [← Option.isSome_iff_exists, Field.ofKey?, List.find?_isSome]
  exact ⟨field, member, by simpa using same⟩

section Admitted

variable {ok : Value → Entries → Value → Prop}

/-- Every entry of an admitted dictionary belongs to a field that admits it. -/
theorem Descriptor.fields_of_admits {fields : List Field} {nullable : Bool}
    {kind : MapKind} {entries : Entries}
    (admitted : (Descriptor.mapping fields nullable).Admits ok (.map kind entries))
    (distinct : entries.Pairwise (fun a b => a.1.eqv b.1 = false)) :
    ∀ entry ∈ entries, ∃ field, Field.ofKey? fields entry.1 = some field ∧
      field.descriptor.Admits ok entry.2 := by
  rcases admitted with ⟨null, _⟩ | ⟨given, dict, closed, _, inside⟩
  · exact nomatch null
  · have same : given = entries := by
      rcases dict with plain | record
      · cases plain
        rfl
      · cases record
        rfl
    subst same
    intro entry member
    obtain ⟨field, declared, key⟩ := closed entry member
    obtain ⟨first, found⟩ := Field.exists_ofKey? declared key
    obtain ⟨among, firstKey⟩ := Field.ofKey?_eq_some found
    refine ⟨first, found, (fieldsAdmit_iff ok given fields).mp inside first among _ ?_⟩
    apply Entries.get?_of_mem distinct
    rw [← firstKey]
    exact member

/-- What the conversion of an admitted value comes to: nothing to walk, a dictionary
under a mapping, a list under an array, or a reference. -/
theorem Value.convertWith_cases {value : Value} {node : Descriptor}
    (admitted : node.Admits ok value) (distinct : value.KeysDistinct) :
    (∃ result, ∀ expand path found,
      value.convertWith expand node path found = pure (result, found)) ∨
    (∃ kind entries fields nullable, value = .map kind entries ∧
      node = .mapping fields nullable ∧ ∀ entry ∈ entries, entry.2.KeysDistinct ∧
        ∃ field, Field.ofKey? fields entry.1 = some field ∧
          field.descriptor.Admits ok entry.2) ∨
    (∃ items element options, value = .list items ∧ node = .array element options ∧
      ∀ item ∈ items, item.KeysDistinct ∧ element.Admits ok item) ∨
    ∃ provider options, node = .ref provider options ∧ ok provider options value ∧
      ∀ expand path found,
        value.convertWith expand node path found = expand provider options value path found := by
  cases node with
  | primitive options =>
      refine .inl ⟨value, fun expand path found => ?_⟩
      cases value <;> rfl
  | mapping fields nullable =>
      rcases id admitted with ⟨rfl, rfl⟩ | ⟨entries, dict, _⟩
      · exact .inl ⟨.null, fun _ _ _ => rfl⟩
      · obtain ⟨kind, rfl⟩ : ∃ kind, value = .map kind entries := by
          rcases dict with plain | record
          · exact ⟨_, plain⟩
          · exact ⟨_, record⟩
        refine .inr (.inl ⟨kind, entries, fields, nullable, rfl, rfl, ?_⟩)
        intro entry member
        exact ⟨entriesEvery_iff.mp distinct.2 entry member,
          Descriptor.fields_of_admits admitted distinct.1 entry member⟩
  | array element options =>
      rcases admitted with ⟨rfl, allowed⟩ | ⟨items, rfl, _, inside⟩
      · refine .inl ⟨.null, fun expand path found => ?_⟩
        simp [Value.convertWith, convertWhole, allowed]
      · refine .inr (.inr (.inl ⟨items, element, options, rfl, rfl, ?_⟩))
        intro item member
        exact ⟨itemsEvery_iff.mp distinct.2 item member, inside item member⟩
  | ref provider options =>
      refine .inr (.inr (.inr ⟨provider, options, rfl, admitted, fun expand path found => ?_⟩))
      cases value <;> rfl
  | foreign value => exact admitted.elim

/-- Induction along the walk over an admitted value. -/
theorem Value.admitted_induction {motive : Value → Descriptor → Prop}
    (whole : ∀ value node result,
      (∀ expand path found, value.convertWith expand node path found = pure (result, found)) →
        motive value node)
    (mapping : ∀ kind entries fields nullable,
      (∀ entry ∈ entries, ∃ field, Field.ofKey? fields entry.1 = some field ∧
        motive entry.2 field.descriptor) →
        motive (.map kind entries) (.mapping fields nullable))
    (array : ∀ items element options, (∀ item ∈ items, motive item element) →
      motive (.list items) (.array element options))
    (ref : ∀ value provider options, ok provider options value →
      (∀ expand path found, value.convertWith expand (.ref provider options) path found =
        expand provider options value path found) →
        motive value (.ref provider options))
    (value : Value) (node : Descriptor) (admitted : node.Admits ok value)
    (distinct : value.KeysDistinct) : motive value node := by
  rcases convertWith_cases admitted distinct with
    ⟨result, passes⟩ | ⟨kind, entries, fields, nullable, rfl, rfl, each⟩ |
      ⟨items, element, options, rfl, rfl, each⟩ | ⟨provider, options, rfl, good, refers⟩
  · exact whole value node result passes
  · refine mapping kind entries fields nullable (fun entry member => ?_)
    obtain ⟨entryDistinct, field, belongs, inner⟩ := each entry member
    exact ⟨field, belongs,
      admitted_induction whole mapping array ref entry.2 _ inner entryDistinct⟩
  · refine array items element options (fun item member => ?_)
    obtain ⟨itemDistinct, inner⟩ := each item member
    exact admitted_induction whole mapping array ref item element inner itemDistinct
  · exact ref value provider options good refers
termination_by sizeOf value
decreasing_by
  all_goals subst value
  · have smaller := List.sizeOf_lt_of_mem member
    obtain ⟨key, item⟩ := entry
    simp only [Value.map.sizeOf_spec, Prod.mk.sizeOf_spec] at smaller ⊢
    omega
  · have smaller := List.sizeOf_lt_of_mem member
    simp only [Value.list.sizeOf_spec]
    omega

end Admitted

/-! ### What the walk consults -/

section Locality

variable {expand further : Expansion}

theorem convertEntries_congr {fields : List Field} (entries : Entries)
    (each : ∀ entry ∈ entries, ∃ field, Field.ofKey? fields entry.1 = some field ∧
      ∀ path found, entry.2.convertWith expand field.descriptor path found =
        entry.2.convertWith further field.descriptor path found)
    (path : Location) (record : Entries) (found : List Failure) :
    convertEntries expand entries fields path record found =
      convertEntries further entries fields path record found := by
  induction entries generalizing record found with
  | nil => rfl
  | cons entry rest induction =>
      obtain ⟨key, item⟩ := entry
      rw [List.forall_mem_cons] at each
      obtain ⟨⟨field, belongs, same⟩, tail⟩ := each
      rw [convertEntries, convertEntries]
      simp only [belongs, same, induction tail]

theorem convertItems_congr {element : Descriptor} (items : List Value)
    (each : ∀ item ∈ items, ∀ path found, item.convertWith expand element path found =
      item.convertWith further element path found)
    (path : Location) (position : Nat) (found : List Failure) :
    convertItems expand items element path position found =
      convertItems further items element path position found := by
  induction items generalizing position found with
  | nil => rfl
  | cons item rest induction =>
      rw [List.forall_mem_cons] at each
      obtain ⟨same, tail⟩ := each
      rw [convertItems, convertItems]
      simp only [same, induction tail]

/-- The conversion of an admitted value consults the references with the parts that they
admit, and nothing else. -/
theorem Value.convertWith_congr {ok : Value → Entries → Value → Prop}
    (same : ∀ provider options item, ok provider options item →
      expand provider options item = further provider options item)
    (value : Value) (node : Descriptor) (admitted : node.Admits ok value)
    (distinct : value.KeysDistinct) :
    ∀ path found, value.convertWith expand node path found =
      value.convertWith further node path found := by
  refine Value.admitted_induction (motive := fun value node => ∀ path found,
    value.convertWith expand node path found = value.convertWith further node path found)
    ?whole ?mapping ?array ?ref value node admitted distinct
  case whole =>
      intro value node result passes path found
      rw [passes, passes]
  case mapping =>
      intro kind entries fields nullable each path found
      have parts := convertEntries_congr entries each path [] found
      rw [Value.convertWith, Value.convertWith]
      dsimp only
      rw [parts]
  case array =>
      intro items element options each path found
      have parts := convertItems_congr items each path 0 found
      rw [Value.convertWith, Value.convertWith]
      dsimp only
      rw [parts]
  case ref =>
      intro value provider options good refers path found
      rw [refers, refers, same provider options value good]

end Locality

end RecordSchema
