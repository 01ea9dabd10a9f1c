import Mathlib.Data.List.Sort
import Mathlib.Data.String.Basic
import RecordSchema.Proofs.Descriptor.Checked

namespace RecordSchema

/-! Nodes that differ in the order in which their mappings declare fields.  The keys
that are required do not depend on that order. -/

/-! ### Looking up in lists of another order -/

/-- Where at most one item is kept, its place does not matter. -/
theorem find?_of_perm {keeps : α → Bool} {items others : List α} (order : items.Perm others)
    (alone : items.Pairwise (fun a b => keeps a = true → ¬ keeps b = true)) :
    items.find? keeps = others.find? keeps := by
  induction order with
  | nil => rfl
  | cons item _ induction =>
      rw [List.find?_cons, List.find?_cons, induction (List.pairwise_cons.mp alone).2]
  | swap first second rest =>
      have apart := (List.pairwise_cons.mp alone).1 first (.head _)
      simp only [List.find?_cons]
      cases left : keeps second <;> cases right : keeps first <;> simp_all
  | trans first _ before after =>
      have moved := (first.pairwise_iff (fun {a b} apart there here => apart here there)).mp alone
      exact (before alone).trans (after moved)

/-! ### Reordered nodes -/

mutual
/-- The other node is the node with the fields of its mappings, at any depth, in any order. -/
def Descriptor.Reorders : Descriptor → Descriptor → Prop
  | .mapping fields nullable, other =>
      ∃ inside others, fieldsReorder fields inside ∧ inside.Perm others ∧
        other = .mapping others nullable
  | .array element options, other =>
      ∃ inside, element.Reorders inside ∧ other = .array inside options
  | node, other => other = node
termination_by structural node => node

/-- The other fields stand in the same order, with nodes below them that are reordered. -/
def fieldsReorder : List Field → List Field → Prop
  | [], others => others = []
  | ⟨name, descriptor, optional, key⟩ :: rest, others =>
      ∃ inside tail, descriptor.Reorders inside ∧ fieldsReorder rest tail ∧
        others = ⟨name, inside, optional, key⟩ :: tail
termination_by structural fields => fields
end

section Fields

variable {fields inside others : List Field}

/-- What is read off a field without its node is not touched. -/
theorem map_of_fieldsReorder {read : Field → α}
    (apart : ∀ field descriptor, read { field with descriptor } = read field)
    (parts : fieldsReorder fields inside) : inside.map read = fields.map read := by
  induction fields generalizing inside with
  | nil =>
      cases parts
      rfl
  | cons field rest induction =>
      obtain ⟨name, descriptor, optional, key⟩ := field
      obtain ⟨node, tail, _, parts, rfl⟩ := parts
      rw [List.map_cons, List.map_cons, induction parts,
        apart ⟨name, descriptor, optional, key⟩ node]

theorem map_wireKey_of_fieldsReorder (parts : fieldsReorder fields inside) :
    inside.map Field.wireKey = fields.map Field.wireKey :=
  map_of_fieldsReorder (fun _ _ => rfl) parts

/-! ### Required keys -/

theorem requiredKeys_of_fieldsReorder (parts : fieldsReorder fields inside) :
    Descriptor.requiredKeys inside = Descriptor.requiredKeys fields := by
  let head (field : Field) : Bool × String := (field.optional, field.wireKey)
  have listed (fields : List Field) :
      (fields.filter (fun field => !field.optional)).map Field.wireKey =
        ((fields.map head).filter (fun pair => !pair.1)).map Prod.snd := by
    rw [List.filter_map, List.map_map]
    rfl
  have heads : inside.map head = fields.map head :=
    map_of_fieldsReorder (fun _ _ => rfl) parts
  unfold Descriptor.requiredKeys
  rw [listed, listed, heads]

theorem requiredKeys_of_perm (order : inside.Perm others) :
    Descriptor.requiredKeys inside = Descriptor.requiredKeys others := by
  have keys := (order.filter (fun field => !field.optional)).map Field.wireKey
  have sorted (names : List String) :
      (names.mergeSort (fun a b => decide (a ≤ b))).Pairwise (· ≤ ·) :=
    List.pairwise_mergeSort' (· ≤ ·) names
  refine List.Perm.eq_of_pairwise (fun _ _ _ _ => le_antisymm) (sorted _) (sorted _) ?_
  exact (List.mergeSort_perm _ _).trans (keys.trans (List.mergeSort_perm _ _).symm)

theorem requiredKeys_of_reordered (parts : fieldsReorder fields inside)
    (order : inside.Perm others) :
    Descriptor.requiredKeys others = Descriptor.requiredKeys fields := by
  rw [← requiredKeys_of_perm order, requiredKeys_of_fieldsReorder parts]

end Fields

/-! ### Nodes without references -/

theorem fieldsProviderFree_iff {fields : List Field} :
    fieldsProviderFree fields ↔ ∀ field ∈ fields, field.descriptor.ProviderFree :=
  forall_mem_of_clauses fieldsProviderFree trivial (fun ⟨_, _, _, _⟩ _ => .rfl)

mutual
theorem Descriptor.Reorders.providerFree :
    {node : Descriptor} → {other : Descriptor} → node.Reorders other → node.ProviderFree →
      other.ProviderFree
  | .primitive _, _, same, free | .ref _ _, _, same, free | .foreign _, _, same, free => by
      cases same
      exact free
  | .mapping fields nullable, other, reorders, free => by
      obtain ⟨inside, others, parts, order, rfl⟩ := reorders
      have middle := fieldsReorder_providerFree parts free
      exact fieldsProviderFree_iff.mpr (fun field among =>
        fieldsProviderFree_iff.mp middle field (order.mem_iff.mpr among))
  | .array element options, other, reorders, free => by
      obtain ⟨inside, below, rfl⟩ := reorders
      exact below.providerFree free
termination_by structural node => node

theorem fieldsReorder_providerFree :
    {fields : List Field} → {inside : List Field} → fieldsReorder fields inside →
      fieldsProviderFree fields → fieldsProviderFree inside
  | [], _, same, _ => by
      cases same
      trivial
  | ⟨_, _, _, _⟩ :: _, _, ⟨_, _, below, parts, rfl⟩, free =>
      ⟨below.providerFree free.1, fieldsReorder_providerFree parts free.2⟩
termination_by structural fields => fields
end

end RecordSchema
