import RecordSchema.Document.Cache
import RecordSchema.Proofs.Provider.Snapshot

namespace RecordSchema

/-! Options that are JSON data.  Snapshots of equal ones are equal, and they are filed under one
key. -/

def Value.JsonHere : Value → Prop
  | .null | .bool _ | .number _ | .text _ | .list _ | .map .plain _ => True
  | _ => False

/-- Data as JSON has it, whatever the keys of its mappings are. -/
def Value.Json : Value → Prop :=
  Every JsonHere

theorem Value.plain_of_json (value : Value) (json : value.Json) : value.Plain := by
  refine value.every_mono (fun value json => ?_) json
  cases value with
  | map kind entries =>
      cases kind with
      | plain => rfl
      | _ => exact json.elim
  | null | bool | number | text | list => trivial
  | _ => exact json.elim

theorem length_freezeEntries (entries : Entries) :
    (freezeEntries entries).length = entries.length := by
  rw [freezeEntries_eq_map, List.length_map]

theorem find?_freezeEntries (entries : Entries) (key : Value) :
    List.find? (fun other => key.eqv other.1) (freezeEntries entries) =
      (List.find? (fun other => key.eqv other.1) entries).map
        (fun entry => (entry.1, entry.2.freeze)) := by
  rw [freezeEntries_eq_map, List.find?_map]
  rfl

/-- What equals an atom of JSON is one, and freezing leaves it as it is. -/
theorem Value.filed_of_atom {a b : Value} (atom : a.items? = none ∧ a.entries? = none)
    (json : a.Json) (json' : b.Json) (same : a.eqv b = true) :
    b.freeze = b ∧ (∀ loose, a.same loose b = true) ∧ a.keyAgrees b = true := by
  cases a with
  | null | bool value | number value | text value =>
      cases b with
      | null | bool value | number value | text value => exact ⟨rfl, fun _ => same, same⟩
      | list items => exact absurd same Bool.false_ne_true
      | map kind entries => exact absurd same Bool.false_ne_true
      | _ => exact json'.here.elim
  | list items => exact nomatch atom.1
  | map kind entries => exact nomatch atom.2
  | _ => exact json.here.elim

mutual
theorem Value.filed_of_eqv : (a : Value) → a.Json → {b : Value} → b.Json → a.eqv b = true →
    (loose : Bool) → a.freeze.same loose b.freeze = true ∧ a.freeze.keyAgrees b.freeze = true
  | .null, json, _, json', same, loose | .bool _, json, _, json', same, loose
  | .number _, json, _, json', same, loose | .text _, json, _, json', same, loose => by
      obtain ⟨itself, equal, keys⟩ := Value.filed_of_atom ⟨rfl, rfl⟩ json json' same
      rw [itself]
      exact ⟨equal loose, keys⟩
  | .list as, json, b, json', same, loose => by
      cases b with
      | list bs => exact itemsFiled_of_eqv as json.2 json'.2 same loose
      | _ => exact absurd same Bool.false_ne_true
  | .map .plain as, json, b, json', same, loose => by
      cases b with
      | map kind bs =>
          cases kind with
          | plain =>
              simp only [Value.eqv, Value.same, Bool.and_eq_true, decide_eq_true_eq] at same
              have lengths : (freezeEntries as).length = (freezeEntries bs).length := by
                rw [length_freezeEntries, length_freezeEntries, same.1]
              obtain ⟨within, keys⟩ := entriesFiled_of_eqv as json.2 json'.2 same.2 loose
              exact ⟨Bool.and_eq_true_iff.mpr ⟨decide_eq_true lengths, within⟩,
                Bool.and_eq_true_iff.mpr ⟨decide_eq_true lengths, keys⟩⟩
          | _ => exact json'.here.elim
      | _ => exact absurd same Bool.false_ne_true
termination_by structural a => a

theorem itemsFiled_of_eqv : (as : List Value) → itemsEvery Value.JsonHere as → {bs : List Value} →
    itemsEvery Value.JsonHere bs → sameItems false as bs = true → (loose : Bool) →
      sameItems loose (freezeItems as) (freezeItems bs) = true ∧
        itemKeysAgree (freezeItems as) (freezeItems bs) = true
  | [], _, [], _, _, _ => ⟨rfl, rfl⟩
  | a :: as, json, b :: bs, json', same, loose => by
      simp only [sameItems, Bool.and_eq_true] at same
      have first := a.filed_of_eqv json.1 json'.1 same.1 loose
      have rest := itemsFiled_of_eqv as json.2 json'.2 same.2 loose
      exact ⟨Bool.and_eq_true_iff.mpr ⟨first.1, rest.1⟩,
        Bool.and_eq_true_iff.mpr ⟨first.2, rest.2⟩⟩
termination_by structural as => as

theorem entriesFiled_of_eqv : (as : List (Value × Value)) → entriesEvery Value.JsonHere as →
    {bs : List (Value × Value)} → entriesEvery Value.JsonHere bs →
      entriesWithin false as bs = true → (loose : Bool) →
        entriesWithin loose (freezeEntries as) (freezeEntries bs) = true ∧
        entryKeysAgree (freezeEntries as) (freezeEntries bs) = true
  | [], _, _, _, _, _ => ⟨rfl, rfl⟩
  | (key, a) :: as, json, bs, json', same, loose => by
      rw [entriesWithin, Bool.and_eq_true] at same
      have rest := entriesFiled_of_eqv as json.2 json' same.2 loose
      rw [freezeEntries, entriesWithin, entryKeysAgree, find?_freezeEntries]
      cases found : bs.find? (fun other => key.eqv other.1) with
      | none => simp [found] at same
      | some other =>
          rw [found] at same
          have inside := entriesEvery_iff.mp json' other (List.mem_of_find?_eq_some found)
          have here := a.filed_of_eqv json.1 inside same.1 loose
          exact ⟨Bool.and_eq_true_iff.mpr ⟨here.1, rest.1⟩,
            Bool.and_eq_true_iff.mpr ⟨here.2, rest.2⟩⟩
termination_by structural as => as
end

/-- References to one provider with equal JSON options are equal and share an entry of every
cache. -/
theorem Descriptor.share_entry_of_json {p : Value} (itself : p.eqv p = true)
    {options others : Entries} (json : options.Hold Value.Json) (json' : others.Hold Value.Json)
    (equal : (Value.map .plain options).eqv (.map .plain others) = true) :
    (ref p (freezeEntries options)).same (ref p (freezeEntries others)) = true ∧
      Cache.answers (ref p (freezeEntries options)) (ref p (freezeEntries others)) = true := by
  have lengths : (freezeEntries options).length = (freezeEntries others).length := by
    simp only [Value.eqv, Value.same, Bool.and_eq_true, decide_eq_true_eq] at equal
    rw [length_freezeEntries, length_freezeEntries, equal.1]
  have within := (Bool.and_eq_true_iff.mp equal).2
  have filed := entriesFiled_of_eqv options (entriesEvery_iff.mpr json)
    (entriesEvery_iff.mpr json') within true
  have same : (ref p (freezeEntries options)).same (ref p (freezeEntries others)) = true :=
    Bool.and_eq_true_iff.mpr ⟨itself,
      Bool.and_eq_true_iff.mpr ⟨decide_eq_true lengths, filed.1⟩⟩
  exact ⟨same, Bool.and_eq_true_iff.mpr ⟨same, filed.2⟩⟩

/-- A node is found in the cache in which an equal one has just been stored. -/
theorem Cache.lookup?_store {stored asked : Descriptor} (answers : answers stored asked = true)
    (cache : Cache) {capacity : Nat} (room : 0 < capacity) (document : Document) :
    (cache.store capacity stored document).lookup? asked =
      some (document, cache.store capacity stored document) := by
  cases capacity with
  | zero => exact absurd room (Nat.lt_irrefl 0)
  | succ capacity => simp [store, lookup?, split?, answers]

end RecordSchema
