import RecordSchema.Proofs.Conversion.Invisibility
import RecordSchema.Proofs.Conversion.Reordering
import RecordSchema.Proofs.Document.Ordering

namespace RecordSchema

/-! The order in which fields are declared cannot be observed: not in documents as mappings,
not in issues, and not in conversions. -/

variable (catalogue : Catalogue)

namespace Descriptor

variable {node other : Descriptor}

/-- Both nodes have one document each, of which one rearranges the other. -/
theorem Reorders.compile (reorders : node.Reorders other) (free : node.ProviderFree)
    (checked : node.Checked) :
    ∃ document further : Document, node.compile catalogue = pure document ∧
      other.compile catalogue = pure further ∧ document.Rearranges further := by
  obtain ⟨document, compiled⟩ := compile_of_providerFree catalogue free
  have result : (node.compile catalogue).outcome {} = .ok document := by
    rw [compiled, Action.outcome_pure]
  obtain ⟨further, listed, rearranged⟩ :=
    reorders.described node checked (describedBy_of_providerFree free result)
  exact ⟨document, further, compiled, other.compileWith_of_describedBy _ listed, rearranged⟩

theorem Reorders.issues (reorders : node.Reorders other) (free : node.ProviderFree)
    (checked : node.Checked) {first second : Session}
    (environment : first.environment = second.environment) (empty : first.caches = [])
    (also : second.caches = []) (value : Value) :
    (node.issues catalogue value).outcome first =
      (other.issues catalogue value).outcome second := by
  obtain ⟨document, further, here, there, rearranged⟩ := reorders.compile catalogue free checked
  rw [outcome_issues, outcome_issues]
  cases readable : Settings.read first.environment [] with
  | refused complaints =>
      have refused := readable
      rw [environment] at refused
      rw [compileCached_of_refused readable, compileCached_of_refused refused]
  | accepted settings =>
      have accepted := readable
      rw [environment] at accepted
      rw [outcome_compileCached_of_empty empty readable (node.hashable_of_providerFree free),
        outcome_compileCached_of_empty also accepted
          (other.hashable_of_providerFree (reorders.providerFree free)),
        here, there, Action.outcome_pure, Action.outcome_pure]
      exact congrArg Except.ok (rearranged.issues value)

/-- Nodes that declare the same fields in different orders have documents that are equal
as mappings, with the same required keys everywhere, and raise the same issues and convert in
the same way. -/
theorem declaration_order_unobservable (free : node.ProviderFree) (checked : node.Checked)
    (reorders : node.Reorders other) :
    (∃ document further : Document,
      (∀ session, (node.compile catalogue).outcome session = .ok document ∧
        (other.compile catalogue).outcome session = .ok further) ∧
      (∀ draft : Bool, (if draft then document.valueWithEdition else document.value).eqv
        (if draft then further.valueWithEdition else further.value) = true) ∧
      ∀ way : List Step,
        (Entries.at? (clauseEntries document) way).map (fun inner => inner.get? "required") =
          (Entries.at? (clauseEntries further) way).map (fun inner => inner.get? "required")) ∧
    ∀ first second : Session, first.environment = second.environment → first.caches = [] →
      second.caches = [] → ∀ value,
        (node.issues catalogue value).outcome first =
          (other.issues catalogue value).outcome second ∧
        (node.convert catalogue value).outcome first =
          (other.convert catalogue value).outcome second := by
  refine ⟨?_, fun first second environment empty also value => ⟨?_, ?_⟩⟩
  · obtain ⟨document, further, here, there, rearranged⟩ := reorders.compile catalogue free checked
    refine ⟨document, further, fun session => ⟨?_, ?_⟩, rearranged.eqv, rearranged.required⟩
    · rw [here, Action.outcome_pure]
    · rw [there, Action.outcome_pure]
  · exact reorders.issues catalogue free checked environment empty also value
  · rw [convert_reordered catalogue reorders checked]
    exact outcome_convert_of_providerFree catalogue (reorders.providerFree free) value first second

/-- The same at two depths: the fields of a mapping, and those of the items within it. -/
theorem declaration_order_unobservable_below_array :
    let catalogue : Catalogue := fun _ => .delegating
    let x : Field := ⟨"x", .primitive (.integer {}), false, none⟩
    let y : Field := ⟨"y", .primitive (.string {}), false, some "Y"⟩
    let total : Field := ⟨"total", .primitive (.number {}), true, none⟩
    let node : Descriptor :=
      .mapping [⟨"points", .array (.mapping [x, y] false) {}, false, none⟩, total] true
    let other : Descriptor :=
      .mapping [total, ⟨"points", .array (.mapping [y, x] false) {}, false, none⟩] true
    let value : Value := .map .plain
      [(.text "total", .text "none"), (.text "points", .list [.map .plain [(.text "Y", .null)]])]
    node.ProviderFree ∧ node.Checked ∧ node.Reorders other ∧
      (∃ document further : Document,
        (node.compile catalogue).outcome {} = .ok document ∧
        (other.compile catalogue).outcome {} = .ok further ∧
        document.value.eqv further.value = true ∧
        (Entries.at? (clauseEntries document) [.property "points", .items]).map
            (fun inner => inner.get? "required") =
          (Entries.at? (clauseEntries further) [.property "points", .items]).map
            (fun inner => inner.get? "required")) ∧
      (node.issues catalogue value).outcome {} = (other.issues catalogue value).outcome {} ∧
      (node.convert catalogue value).outcome {} = (other.convert catalogue value).outcome {} := by
  intro catalogue x y total node other value
  have free : node.ProviderFree := ⟨⟨trivial, trivial, trivial⟩, trivial, trivial⟩
  have checked : node.Checked :=
    ⟨by decide, by decide, ⟨by decide, by decide, trivial, trivial, trivial⟩, trivial, trivial⟩
  have below : Descriptor.Reorders (.mapping [x, y] false) (.mapping [y, x] false) :=
    ⟨[x, y], [y, x], ⟨_, _, rfl, ⟨_, _, rfl, rfl, rfl⟩, rfl⟩, .swap y x [], rfl⟩
  have reorders : node.Reorders other :=
    ⟨_, _, ⟨_, _, ⟨_, below, rfl⟩, ⟨_, _, rfl, rfl, rfl⟩, rfl⟩, .swap _ _ [], rfl⟩
  obtain ⟨⟨document, further, compiled, equal, required⟩, observed⟩ :=
    declaration_order_unobservable catalogue free checked reorders
  obtain ⟨issues, converted⟩ := observed {} {} rfl rfl rfl value
  exact ⟨free, checked, reorders,
    ⟨document, further, (compiled {}).1, (compiled {}).2, equal false, required _⟩, issues,
    converted⟩

end Descriptor

end RecordSchema
