import RecordSchema.Document.Cache
import RecordSchema.Proofs.Descriptor.Construction
import RecordSchema.Proofs.Provider.Snapshot

namespace RecordSchema

/-! When equal nodes are filed under one key.  Equality looks through the two kinds of byte
strings, the key does not: what may change is filed under the name of its type.  The kinds of
the byte strings in corresponding places therefore decide. -/

/-- The values `x` and `y` stand in the same place of two values. -/
inductive Value.Corresponds : Value → Value → Value → Value → Prop where
  | here (a b : Value) : Corresponds a b a b
  | item {as bs : List Value} {a b x y : Value} (paired : (a, b) ∈ as.zip bs)
      (inside : Corresponds a b x y) : Corresponds (.tuple as) (.tuple bs) x y
  | entry {kind kind' : MapKind} {as bs : Entries} {key a b x y : Value}
      (given : (key, a) ∈ as) (found : bs.find? key = some b)
      (inside : Corresponds a b x y) : Corresponds (.map kind as) (.map kind' bs) x y

/-- The values `x` and `y` stand in the same place of the options of two nodes. -/
inductive Descriptor.Corresponds : Descriptor → Descriptor → Value → Value → Prop where
  | field {as bs : List Field} {nullable nullable' : Bool} {a b : Field} {x y : Value}
      (paired : (a, b) ∈ as.zip bs) (inside : Corresponds a.descriptor b.descriptor x y) :
      Corresponds (.mapping as nullable) (.mapping bs nullable') x y
  | element {a b : Descriptor} {options options' : ArrayOptions} {x y : Value}
      (inside : Corresponds a b x y) : Corresponds (.array a options) (.array b options') x y
  | option {p q : Value} {as bs : Entries} {key a b x y : Value} (given : (key, a) ∈ as)
      (found : bs.find? key = some b) (inside : a.Corresponds b x y) :
      Corresponds (.ref p as) (.ref q bs) x y

/-- Byte strings in the same place both may change or both may not. -/
def Value.BytesAgree (a b : Value) : Prop :=
  ∀ mutable data mutable' data',
    a.Corresponds b (.bytes mutable data) (.bytes mutable' data') → mutable = mutable'

def Descriptor.BytesAgree (a b : Descriptor) : Prop :=
  ∀ mutable data mutable' data',
    a.Corresponds b (.bytes mutable data) (.bytes mutable' data') → mutable = mutable'

namespace Value

theorem bytesAgree_bytes {mutable mutable' : Bool} {data data' : List UInt8} :
    (Value.bytes mutable data).BytesAgree (.bytes mutable' data') ↔ mutable = mutable' := by
  refine ⟨fun agree => agree _ _ _ _ (.here _ _), fun same _ _ _ _ place => ?_⟩
  cases place with
  | here => exact same

theorem bytesAgree_tuple {as bs : List Value} :
    (Value.tuple as).BytesAgree (.tuple bs) ↔ ∀ pair ∈ as.zip bs, pair.1.BytesAgree pair.2 := by
  constructor
  · intro agree pair paired _ _ _ _ place
    exact agree _ _ _ _ (.item paired place)
  · intro agree _ _ _ _ place
    cases place with
    | item paired inside => exact agree _ paired _ _ _ _ inside

theorem bytesAgree_map {kind kind' : MapKind} {as bs : Entries} :
    (Value.map kind as).BytesAgree (.map kind' bs) ↔
      ∀ entry ∈ as, ∀ b, bs.find? entry.1 = some b → entry.2.BytesAgree b := by
  constructor
  · intro agree entry given b found _ _ _ _ place
    exact agree _ _ _ _ (.entry given found place)
  · intro agree _ _ _ _ place
    cases place with
    | entry given found inside => exact agree _ given _ found _ _ _ _ inside

end Value

namespace Descriptor

theorem bytesAgree_mapping {as bs : List Field} {nullable nullable' : Bool} :
    (mapping as nullable).BytesAgree (.mapping bs nullable') ↔
      ∀ pair ∈ as.zip bs, pair.1.descriptor.BytesAgree pair.2.descriptor := by
  constructor
  · intro agree pair paired _ _ _ _ place
    exact agree _ _ _ _ (.field paired place)
  · intro agree _ _ _ _ place
    cases place with
    | field paired inside => exact agree _ paired _ _ _ _ inside

theorem bytesAgree_array {a b : Descriptor} {options options' : ArrayOptions} :
    (array a options).BytesAgree (.array b options') ↔ a.BytesAgree b := by
  constructor
  · intro agree _ _ _ _ place
    exact agree _ _ _ _ (.element place)
  · intro agree _ _ _ _ place
    cases place with
    | element inside => exact agree _ _ _ _ inside

theorem bytesAgree_ref {p q : Value} {as bs : Entries} :
    (ref p as).BytesAgree (.ref q bs) ↔
      ∀ entry ∈ as, ∀ b, bs.find? entry.1 = some b → entry.2.BytesAgree b := by
  constructor
  · intro agree entry given b found _ _ _ _ place
    exact agree _ _ _ _ (.option given found place)
  · intro agree _ _ _ _ place
    cases place with
    | option given found inside => exact agree _ given _ found _ _ _ _ inside

end Descriptor

mutual
/-- Equal snapshots of plain data are filed under one key iff their byte strings agree. -/
theorem Value.keyAgrees_iff : (a : Value) → a.Kept → {b : Value} → b.Kept →
    a.same true b = true → (a.keyAgrees b = true ↔ a.BytesAgree b)
  | .null, _, b, _, same => by
      cases b with
      | null => exact iff_of_true rfl (fun _ _ _ _ place => nomatch place)
      | _ => exact absurd same Bool.false_ne_true
  | .bool _, _, b, _, same | .number _, _, b, _, same => by
      cases b with
      | bool | number => exact iff_of_true same (fun _ _ _ _ place => nomatch place)
      | _ => exact absurd same Bool.false_ne_true
  | .text _, _, b, _, same => by
      cases b with
      | text => exact iff_of_true same (fun _ _ _ _ place => nomatch place)
      | _ => exact absurd same Bool.false_ne_true
  | .bytes mutable _, _, b, _, same => by
      cases b with
      | bytes mutable' =>
          rw [Value.bytesAgree_bytes]
          cases mutable <;> cases mutable'
          · exact iff_of_true same rfl
          · exact iff_of_false Bool.false_ne_true Bool.false_ne_true
          · exact iff_of_false Bool.false_ne_true (Ne.symm Bool.false_ne_true)
          · exact iff_of_true rfl rfl
      | _ => exact absurd same Bool.false_ne_true
  | .tuple as, kept, b, kept', same => by
      cases b with
      | tuple bs =>
          rw [Value.bytesAgree_tuple]
          exact itemKeysAgree_iff as kept.2 kept'.2 same
      | list => exact kept'.here.elim
      | _ => exact absurd same Bool.false_ne_true
  | .map .readOnly as, kept, b, kept', same => by
      cases b with
      | map kind bs =>
          simp only [Value.same, Bool.and_eq_true, decide_eq_true_eq] at same
          rw [Value.bytesAgree_map, Value.keyAgrees, decide_eq_true same.1, Bool.true_and]
          exact entryKeysAgree_iff as kept.2 kept'.2 same.2
      | _ => exact absurd same Bool.false_ne_true
termination_by structural a => a

theorem itemKeysAgree_iff : (as : List Value) → itemsEvery Value.KeptHere as → {bs : List Value} →
    itemsEvery Value.KeptHere bs → sameItems true as bs = true →
      (itemKeysAgree as bs = true ↔ ∀ pair ∈ as.zip bs, pair.1.BytesAgree pair.2)
  | [], _, [], _, _ => iff_of_true rfl (List.forall_mem_nil _)
  | a :: as, kept, b :: bs, kept', same => by
      simp only [sameItems, Bool.and_eq_true] at same
      rw [itemKeysAgree, Bool.and_eq_true, a.keyAgrees_iff kept.1 kept'.1 same.1,
        itemKeysAgree_iff as kept.2 kept'.2 same.2, List.zip_cons_cons, List.forall_mem_cons]
termination_by structural as => as

theorem entryKeysAgree_iff : (as : List (Value × Value)) → entriesEvery Value.KeptHere as →
    {bs : List (Value × Value)} → entriesEvery Value.KeptHere bs →
      entriesWithin true as bs = true → (entryKeysAgree as bs = true ↔
        ∀ entry ∈ as, ∀ b, Entries.find? bs entry.1 = some b → entry.2.BytesAgree b)
  | [], _, _, _, _ => iff_of_true rfl (List.forall_mem_nil _)
  | (key, a) :: as, kept, bs, kept', same => by
      rw [entriesWithin, Bool.and_eq_true] at same
      rw [entryKeysAgree, Bool.and_eq_true, entryKeysAgree_iff as kept.2 kept' same.2,
        List.forall_mem_cons]
      refine and_congr_left (fun _ => ?_)
      cases found : bs.find? (fun other => key.eqv other.1) with
      | none => simp [found] at same
      | some other =>
          have inside : other.2.Kept :=
            entriesEvery_iff.mp kept' other (List.mem_of_find?_eq_some found)
          rw [found] at same
          simp only [Entries.find?, found, Option.map_some, Option.some.injEq, forall_eq']
          exact a.keyAgrees_iff kept.1 inside same.1
termination_by structural as => as
end

/-! ### Nodes -/

mutual
/-- The options of every reference are snapshots of plain data. -/
def Descriptor.Kept : Descriptor → Prop
  | .primitive _ => True
  | .mapping fields _ => fieldsKept fields
  | .array element _ => element.Kept
  | .ref _ options => Entries.Hold Value.Kept options
  | .foreign _ => False
termination_by structural node => node

def fieldsKept : List Field → Prop
  | [] => True
  | ⟨_, descriptor, _, _⟩ :: rest => descriptor.Kept ∧ fieldsKept rest
termination_by structural fields => fields
end

mutual
theorem Descriptor.keyAgrees_iff : (a : Descriptor) → a.Kept → {b : Descriptor} → b.Kept →
    a.same b = true → (a.keyAgrees b = true ↔ a.BytesAgree b)
  | .primitive _, _, .primitive _, _, _ =>
      iff_of_true rfl (fun _ _ _ _ place => nomatch place)
  | .mapping as _, kept, .mapping bs _, kept', same => by
      rw [Descriptor.same, Bool.and_eq_true] at same
      rw [Descriptor.bytesAgree_mapping]
      exact fieldKeysAgree_iff as kept kept' same.2
  | .array a _, kept, .array b _, kept', same => by
      rw [Descriptor.same, Bool.and_eq_true] at same
      rw [Descriptor.bytesAgree_array]
      exact a.keyAgrees_iff kept kept' same.2
  | .ref _ as, kept, .ref _ bs, kept', same => by
      simp only [Descriptor.same, Bool.and_eq_true] at same
      rw [Descriptor.bytesAgree_ref]
      exact entryKeysAgree_iff as (entriesEvery_iff.mpr kept) (entriesEvery_iff.mpr kept')
        same.2.2
termination_by structural a => a

theorem fieldKeysAgree_iff : (as : List Field) → fieldsKept as → {bs : List Field} →
    fieldsKept bs → sameFields as bs = true →
      (fieldKeysAgree as bs = true ↔
        ∀ pair ∈ as.zip bs, pair.1.descriptor.BytesAgree pair.2.descriptor)
  | [], _, [], _, _ => iff_of_true rfl (List.forall_mem_nil _)
  | ⟨_, a, _, _⟩ :: as, kept, ⟨_, b, _, _⟩ :: bs, kept', same => by
      simp only [sameFields, Bool.and_eq_true] at same
      rw [fieldKeysAgree, Bool.and_eq_true, a.keyAgrees_iff kept.1 kept'.1 same.1.2,
        fieldKeysAgree_iff as kept.2 kept'.2 same.2, List.zip_cons_cons, List.forall_mem_cons]
termination_by structural as => as
end

/-- Equal nodes have equal keys, and share an entry of the cache, iff the byte strings among
their provider options agree. -/
theorem Descriptor.filed_together_iff {a b : Descriptor} (kept : a.Kept) (kept' : b.Kept)
    (same : a.same b = true) :
    (a.keyAgrees b = true ↔ a.BytesAgree b) ∧ (Cache.answers a b = true ↔ a.BytesAgree b) := by
  have keys := a.keyAgrees_iff kept kept' same
  rw [Cache.answers, same, Bool.true_and]
  exact ⟨keys, keys⟩

theorem Descriptor.filed_together_iff_of_nested_bytes :
    let c : ProviderClass := { key := "Spec", typeName := "Spec" }
    let node (mutable : Bool) (second : Value) : Descriptor :=
      .array (.ref (.provider c 0)
        [(.text "x", .tuple [.bytes mutable [97], second])]) {}
    (node false (.int 1)).Kept ∧ (node true (.bool true)).Kept ∧
      (node false (.int 1)).same (node true (.bool true)) = true ∧
        ((node false (.int 1)).keyAgrees (node true (.bool true)) = true ↔
          (node false (.int 1)).BytesAgree (node true (.bool true))) ∧
        (Cache.answers (node false (.int 1)) (node true (.bool true)) = true ↔
          (node false (.int 1)).BytesAgree (node true (.bool true))) := by
  intro c node
  have kept (mutable : Bool) (value : Value) (plain : value.Kept) : (node mutable value).Kept :=
    entriesEvery_iff.mp ⟨⟨trivial, trivial, plain, trivial⟩, trivial⟩
  have first := kept false (.int 1) trivial
  have second := kept true (.bool true) trivial
  have same : (node false (.int 1)).same (node true (.bool true)) = true := by decide +kernel
  exact ⟨first, second, same, filed_together_iff first second same⟩

/-- A byte string that may change equals one that may not, and is filed apart from it. -/
theorem Descriptor.equal_but_filed_apart :
    let c : ProviderClass := { key := "Spec", typeName := "Spec" }
    let spec (mutable : Bool) : Value :=
      .tuple [.providerClass c, .map .plain [(.text "x", .bytes mutable [97])]]
    let session : Session := (spec false).toDescriptor.after {}
    ∃ a b, (spec false).toDescriptor.outcome {} = .ok a ∧
      (spec true).toDescriptor.outcome session = .ok b ∧ a.Checked ∧ b.Checked ∧
        a.same b = true ∧ a.keyAgrees b = false ∧ Cache.answers a b = false :=
  ⟨_, _, rfl, rfl, trivial, trivial, rfl, rfl, rfl⟩

end RecordSchema
