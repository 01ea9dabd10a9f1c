import RecordSchema.Proofs.Conversion.Problems
import RecordSchema.Provider.Delegation

namespace RecordSchema

/-! Conversion can be undone.  Renaming the fields of a record back to their keys gives the
converted value again, but for the kind of its mappings and sequences. -/

namespace Descriptor

/-- The value with plain mappings where the tree has mappings, and lists where it has
arrays. -/
abbrev plain (node : Descriptor) (value : Value) : Value :=
  node.recast .plain Field.wireKey Field.wireKey value

/-- The record with keys in place of field names. -/
abbrev renamedBack (node : Descriptor) (record : Value) : Value :=
  node.recast .plain Field.name Field.wireKey record

variable {node : Descriptor} {value : Value}

/-- Names given by one recasting can be read by the next. -/
theorem recast_toRecord (kind : MapKind) (given : Field → String) (free : node.ProviderFree)
    (checked : node.Checked) (unproblematic : node.problems value = []) :
    node.recast kind Field.name given (node.toRecord value) =
      node.recast kind Field.wireKey given value := by
  refine checked_induction (motive := fun node => ∀ value, node.problems value = [] →
    node.recast kind Field.name given (node.toRecord value) =
      node.recast kind Field.wireKey given value)
    ?primitive ?mapping ?array node free checked value unproblematic
  case primitive =>
      intro options value _
      rfl
  case mapping =>
      intro fields nullable names _ inside value unproblematic
      cases parts : value.entries? with
      | none => simp only [toRecord, recast, parts]
      | some entries =>
          simp only [problems, parts, List.flatMap_eq_nil_iff] at unproblematic
          rw [toRecord, recast_mapping parts, recast_mapping parts, recast_mapping rfl,
            List.map_map]
          refine congrArg (Value.map kind) (List.map_congr_left (fun entry member => ?_))
          have none := unproblematic entry member
          rw [entryProblems_eq] at none
          rw [Function.comp, recastEntry_eq fields entry, recastEntry_eq fields entry,
            Field.knownAs_wireKey]
          cases belongs : Field.ofKey? fields entry.1 with
          | none =>
              rw [belongs] at none
              exact absurd none (List.cons_ne_nil _ _)
          | some field =>
              rw [belongs] at none
              have among := (Field.ofKey?_eq_some belongs).1
              dsimp only
              rw [recastEntry_eq, Field.knownAs_of_mem names among]
              dsimp only
              rw [inside field among entry.2 (located_eq_nil.mp none)]
  case array =>
      intro element options inside value unproblematic
      cases parts : value.items? with
      | none => simp only [toRecord, recast, parts]
      | some items =>
          simp only [problems, parts, List.flatMap_eq_nil_iff, located_eq_nil] at unproblematic
          rw [toRecord, recast_array parts, recast_array parts, recast_array rfl, List.map_map]
          refine congrArg Value.list (List.map_congr_left (fun item member => ?_))
          obtain ⟨position, bound, found⟩ := List.getElem_of_mem member
          exact inside item (unproblematic (item, position) (by
            rw [List.mem_zipIdx_iff_getElem?, ← found, List.getElem?_eq_getElem bound]))

variable {catalogue : Catalogue} {session : Session} {result : Value}

theorem unproblematic_of_convert (free : node.ProviderFree) (checked : node.Checked)
    (distinct : value.KeysDistinct)
    (converted : (node.convert catalogue value).outcome session = .ok result) :
    node.problems value = [] ∧ result = node.toRecord value := by
  rw [outcome_convert catalogue free checked distinct] at converted
  cases problems : node.problems value with
  | nil =>
      rw [problems] at converted
      exact ⟨rfl, (Except.ok.inj converted).symm⟩
  | cons first rest =>
      rw [problems] at converted
      exact nomatch converted

theorem renamedBack_eq_plain (free : node.ProviderFree) (checked : node.Checked)
    (distinct : value.KeysDistinct)
    (converted : (node.convert catalogue value).outcome session = .ok result) :
    node.renamedBack result = node.plain value := by
  obtain ⟨unproblematic, rfl⟩ := unproblematic_of_convert free checked distinct converted
  exact recast_toRecord .plain Field.wireKey free checked unproblematic

/-- A converted value can be read off its record, so no two values have one record unless
they differ in the kinds of their mappings and sequences only. -/
theorem convert_loses_nothing (free : node.ProviderFree) (checked : node.Checked)
    (distinct : value.KeysDistinct)
    (converted : (node.convert catalogue value).outcome session = .ok result) :
    node.renamedBack result = node.plain value ∧
      ∀ other later, other.KeysDistinct →
        (node.convert catalogue other).outcome later = .ok result →
          node.plain other = node.plain value := by
  have back := renamedBack_eq_plain free checked distinct converted
  refine ⟨back, fun other later otherDistinct also => ?_⟩
  rw [← back]
  exact (renamedBack_eq_plain free checked otherDistinct also).symm

/-- Two fields that each go by the key that is the name of the other. -/
theorem convert_loses_nothing_of_swapped_names :
    let catalogue : Catalogue := fun _ => .delegating
    let node : Descriptor := .mapping
      [⟨"a", .primitive (.any false), false, some "b"⟩,
        ⟨"b", .array (.primitive (.integer {})) {}, false, some "a"⟩] false
    let value : Value := .map .readOnly [(.text "a", .tuple [.int 1]), (.text "b", .tuple [])]
    let result : Value := .map .record [(.text "b", .list [.int 1]), (.text "a", .tuple [])]
    node.ProviderFree ∧ node.Checked ∧ value.KeysDistinct ∧
      (node.convert catalogue value).outcome {} = .ok result ∧
      node.renamedBack result = node.plain value ∧
      node.plain value = .map .plain [(.text "a", .list [.int 1]), (.text "b", .tuple [])] ∧
      ∀ other later, other.KeysDistinct →
        (node.convert catalogue other).outcome later = .ok result →
          node.plain other = node.plain value := by
  intro catalogue node value result
  have free : node.ProviderFree := ⟨trivial, trivial, trivial⟩
  have checked : node.Checked := ⟨by decide, by decide, trivial, trivial, trivial⟩
  have distinct : value.KeysDistinct :=
    ⟨List.pairwise_pair.mpr rfl, ⟨trivial, trivial, trivial⟩, ⟨trivial, trivial⟩, trivial⟩
  have converted : (node.convert catalogue value).outcome {} = .ok result := rfl
  obtain ⟨back, one⟩ := convert_loses_nothing free checked distinct converted
  exact ⟨free, checked, distinct, converted, back, rfl, one⟩

end Descriptor

end RecordSchema
