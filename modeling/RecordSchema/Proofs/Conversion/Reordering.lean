import RecordSchema.Proofs.Conversion.Walk
import RecordSchema.Proofs.Descriptor.Reordering
import RecordSchema.Proofs.Session.Outcome

namespace RecordSchema

/-! Conversion does not depend on the order in which fields are declared: it follows the
order of the value, and asks of a mapping only which field a key belongs to. -/

/-! ### The field of a key -/

section Fields

variable {fields inside others : List Field}

/-- Two fields of one name and key, whose nodes differ in order only. -/
structure Field.Reorders (field other : Field) : Prop where
  name : other.name = field.name
  descriptor : field.descriptor.Reorders other.descriptor
  checked : field.descriptor.Checked

theorem ofKey?_of_perm (distinct : (inside.map Field.wireKey).Nodup) (order : inside.Perm others)
    (key : Value) : Field.ofKey? inside key = Field.ofKey? others key := by
  refine find?_of_perm order ((List.pairwise_map.mp distinct).imp ?_)
  intro a b unequal first second
  rw [Value.eqv_text_right] at first second
  exact unequal (Value.text.inj (first.symm.trans second))

theorem ofKey?_of_fieldsReorder (parts : fieldsReorder fields inside)
    (checked : fieldsChecked fields) (key : Value) :
    Option.Rel Field.Reorders (Field.ofKey? fields key) (Field.ofKey? inside key) := by
  induction fields generalizing inside with
  | nil =>
      cases parts
      exact .none
  | cons field rest induction =>
      obtain ⟨name, descriptor, optional, given⟩ := field
      obtain ⟨node, tail, below, parts, rfl⟩ := parts
      unfold Field.ofKey?
      rw [List.find?_cons, List.find?_cons]
      cases found : key.eqv (.text (Field.mk name descriptor optional given).wireKey) with
      | true =>
          have also : key.eqv (.text (Field.mk name node optional given).wireKey) = true := found
          rw [also]
          exact .some ⟨rfl, below, checked.1⟩
      | false =>
          have also : key.eqv (.text (Field.mk name node optional given).wireKey) = false := found
          rw [also]
          exact induction parts checked.2

theorem ofKey?_of_reordered (parts : fieldsReorder fields inside) (order : inside.Perm others)
    (distinct : (fields.map Field.wireKey).Nodup) (checked : fieldsChecked fields) (key : Value) :
    Option.Rel Field.Reorders (Field.ofKey? fields key) (Field.ofKey? others key) := by
  rw [← map_wireKey_of_fieldsReorder parts] at distinct
  rw [← ofKey?_of_perm distinct order]
  exact ofKey?_of_fieldsReorder parts checked key

end Fields

/-! ### The walk -/

variable (expand : Expansion)

/-- No container, or none of the kind that the node is of: the order is never asked. -/
theorem convertWhole_reordered {node other : Descriptor} (reorders : node.Reorders other)
    (value : Value) (path : Location) (found : List Failure) :
    convertWhole expand node value path found = convertWhole expand other value path found := by
  cases node with
  | mapping fields nullable =>
      obtain ⟨inside, others, _, _, rfl⟩ := reorders
      rfl
  | array element options =>
      obtain ⟨inside, _, rfl⟩ := reorders
      rfl
  | primitive options | ref provider options | foreign given =>
      cases reorders
      rfl

mutual
theorem Value.convertWith_reordered :
    (value : Value) → {node other : Descriptor} → node.Reorders other → node.Checked →
      (path : Location) → (found : List Failure) →
        value.convertWith expand node path found = value.convertWith expand other path found
  | .map kind entries, node, other, reorders, checked, path, found => by
      cases node with
      | mapping fields nullable =>
          obtain ⟨inside, others, parts, order, rfl⟩ := reorders
          have owners := ofKey?_of_reordered parts order checked.2.1 checked.2.2
          rw [Value.convertWith, Value.convertWith]
          dsimp only
          rw [convertEntries_reordered entries owners]
      | array element options =>
          obtain ⟨inside, _, rfl⟩ := reorders
          rfl
      | primitive options | ref provider options | foreign given =>
          cases reorders
          rfl
  | .list items, node, other, reorders, checked, path, found => by
      cases node with
      | array element options =>
          obtain ⟨inside, below, rfl⟩ := reorders
          rw [Value.convertWith, Value.convertWith]
          dsimp only
          rw [convertItems_reordered items below checked]
      | mapping fields nullable =>
          obtain ⟨inside, others, _, _, rfl⟩ := reorders
          rfl
      | primitive options | ref provider options | foreign given =>
          cases reorders
          rfl
  | .tuple items, node, other, reorders, checked, path, found => by
      cases node with
      | array element options =>
          obtain ⟨inside, below, rfl⟩ := reorders
          rw [Value.convertWith, Value.convertWith]
          dsimp only
          rw [convertItems_reordered items below checked]
      | mapping fields nullable =>
          obtain ⟨inside, others, _, _, rfl⟩ := reorders
          rfl
      | primitive options | ref provider options | foreign given =>
          cases reorders
          rfl
  | .null, _, _, reorders, _, path, found | .bool _, _, _, reorders, _, path, found
  | .number _, _, _, reorders, _, path, found | .text _, _, _, reorders, _, path, found
  | .bytes _ _, _, _, reorders, _, path, found | .set _ _, _, _, reorders, _, path, found
  | .date _ _ _, _, _, reorders, _, path, found | .moment _, _, _, reorders, _, path, found
  | .providerClass _, _, _, reorders, _, path, found
  | .provider _ _, _, _, reorders, _, path, found
  | .descriptor _, _, _, reorders, _, path, found | .field _, _, _, reorders, _, path, found
  | .options _, _, _, reorders, _, path, found | .other _, _, _, reorders, _, path, found =>
      convertWhole_reordered expand reorders _ path found
termination_by structural value => value

theorem convertEntries_reordered :
    (entries : List (Value × Value)) → {fields others : List Field} →
      (∀ key, Option.Rel Field.Reorders (Field.ofKey? fields key) (Field.ofKey? others key)) →
        (path : Location) → (record : Entries) → (found : List Failure) →
          convertEntries expand entries fields path record found =
            convertEntries expand entries others path record found
  | [], _, _, _, _, _, _ => rfl
  | (key, item) :: rest, fields, others, owners, path, record, found => by
      have owner := owners key
      rw [convertEntries, convertEntries]
      cases here : Field.ofKey? fields key with
      | none =>
          rw [here] at owner
          cases there : Field.ofKey? others key with
          | none => exact convertEntries_reordered rest owners path record _
          | some other =>
              rw [there] at owner
              exact nomatch owner
      | some field =>
          rw [here] at owner
          cases there : Field.ofKey? others key with
          | none =>
              rw [there] at owner
              exact nomatch owner
          | some other =>
              rw [there] at owner
              obtain ⟨⟨name, below, checked⟩⟩ := owner
              dsimp only
              rw [item.convertWith_reordered below checked, name]
              congr 1
              funext converted
              exact convertEntries_reordered rest owners path _ _
termination_by structural entries => entries

theorem convertItems_reordered :
    (items : List Value) → {element other : Descriptor} → element.Reorders other →
      element.Checked → (path : Location) → (position : Nat) → (found : List Failure) →
        convertItems expand items element path position found =
          convertItems expand items other path position found
  | [], _, _, _, _, _, _, _ => rfl
  | item :: rest, element, other, reorders, checked, path, position, found => by
      rw [convertItems, convertItems, item.convertWith_reordered reorders checked]
      congr 1
      funext converted
      dsimp only
      rw [convertItems_reordered rest reorders checked]
termination_by structural items => items
end

/-- A reordered node converts in the same way, whatever its providers do. -/
theorem Descriptor.convert_reordered (catalogue : Catalogue) {node other : Descriptor}
    (reorders : node.Reorders other) (checked : node.Checked) (value : Value) :
    node.convert catalogue value = other.convert catalogue value := by
  unfold convert completeConversion
  rw [value.convertWith_reordered _ reorders checked]

/-! ### Conversion without references -/

theorem convertWhole_settled {node : Descriptor} (free : node.ProviderFree) (value : Value)
    (path : Location) (found : List Failure) :
    ∃ converted, convertWhole expand node value path found = pure converted := by
  unfold convertWhole
  cases node with
  | primitive options => exact ⟨_, rfl⟩
  | mapping fields nullable =>
      dsimp only
      split <;> exact ⟨_, rfl⟩
  | array element options =>
      dsimp only
      split <;> exact ⟨_, rfl⟩
  | ref provider options | foreign given => exact free.elim

mutual
/-- Without references a conversion neither reads the session nor raises anything. -/
theorem Value.convertWith_settled :
    (value : Value) → {node : Descriptor} → node.ProviderFree → (path : Location) →
      (found : List Failure) →
        ∃ converted, value.convertWith expand node path found = pure converted
  | .map kind entries, node, free, path, found => by
      cases node with
      | mapping fields nullable =>
          obtain ⟨⟨record, later⟩, converts⟩ :=
            convertEntries_settled entries (fieldsProviderFree_iff.mp free) path [] found
          refine ⟨(.map .record record, later), ?_⟩
          rw [Value.convertWith]
          dsimp only
          rw [converts, pure_bind]
      | primitive options | array element options | ref provider options | foreign given =>
          exact convertWhole_settled expand free (.map kind entries) path found
  | .list items, node, free, path, found => by
      cases node with
      | array element options =>
          have inside : element.ProviderFree := free
          obtain ⟨⟨values, later⟩, converts⟩ := convertItems_settled items inside path 0 found
          refine ⟨(.list values, later), ?_⟩
          rw [Value.convertWith]
          dsimp only
          rw [converts, pure_bind]
      | primitive options | mapping fields nullable | ref provider options | foreign given =>
          exact convertWhole_settled expand free (.list items) path found
  | .tuple items, node, free, path, found => by
      cases node with
      | array element options =>
          have inside : element.ProviderFree := free
          obtain ⟨⟨values, later⟩, converts⟩ := convertItems_settled items inside path 0 found
          refine ⟨(.list values, later), ?_⟩
          rw [Value.convertWith]
          dsimp only
          rw [converts, pure_bind]
      | primitive options | mapping fields nullable | ref provider options | foreign given =>
          exact convertWhole_settled expand free (.tuple items) path found
  | .null, _, free, path, found | .bool _, _, free, path, found
  | .number _, _, free, path, found | .text _, _, free, path, found
  | .bytes _ _, _, free, path, found | .set _ _, _, free, path, found
  | .date _ _ _, _, free, path, found | .moment _, _, free, path, found
  | .providerClass _, _, free, path, found | .provider _ _, _, free, path, found
  | .descriptor _, _, free, path, found | .field _, _, free, path, found
  | .options _, _, free, path, found | .other _, _, free, path, found =>
      convertWhole_settled expand free _ path found
termination_by structural value => value

theorem convertEntries_settled :
    (entries : List (Value × Value)) → {fields : List Field} →
      (∀ field ∈ fields, field.descriptor.ProviderFree) → (path : Location) →
        (record : Entries) → (found : List Failure) →
          ∃ converted, convertEntries expand entries fields path record found = pure converted
  | [], _, _, _, _, _ => ⟨_, rfl⟩
  | (key, item) :: rest, fields, free, path, record, found => by
      rw [convertEntries]
      cases owner : Field.ofKey? fields key with
      | none => exact convertEntries_settled rest free path record _
      | some field =>
          obtain ⟨⟨value, later⟩, converts⟩ := item.convertWith_settled
            (free field (Field.ofKey?_eq_some owner).1) (path ++ [key]) found
          dsimp only
          rw [converts, pure_bind]
          exact convertEntries_settled rest free path _ later
termination_by structural entries => entries

theorem convertItems_settled :
    (items : List Value) → {element : Descriptor} → element.ProviderFree → (path : Location) →
      (position : Nat) → (found : List Failure) →
        ∃ converted, convertItems expand items element path position found = pure converted
  | [], _, _, _, _, _ => ⟨_, rfl⟩
  | item :: rest, element, free, path, position, found => by
      obtain ⟨⟨value, later⟩, converts⟩ :=
        item.convertWith_settled free (path ++ [.int position]) found
      obtain ⟨⟨values, last⟩, follows⟩ :=
        convertItems_settled rest free path (position + 1) later
      refine ⟨(value :: values, last), ?_⟩
      rw [convertItems, converts, pure_bind]
      dsimp only
      rw [follows, pure_bind]
termination_by structural items => items
end

/-- The outcome is the same in every session. -/
theorem Descriptor.outcome_convert_of_providerFree (catalogue : Catalogue) {node : Descriptor}
    (free : node.ProviderFree) (value : Value) (first second : Session) :
    (node.convert catalogue value).outcome first =
      (node.convert catalogue value).outcome second := by
  obtain ⟨⟨result, failures⟩, converts⟩ :=
    value.convertWith_settled (expandWithin catalogue expansionLimit) free [] []
  rw [convert, completeConversion, converts, pure_bind]
  cases failures <;> rfl

end RecordSchema
