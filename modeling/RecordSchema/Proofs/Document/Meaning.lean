import RecordSchema.Conversion.Validated
import RecordSchema.Proofs.Descriptor.Sameness
import RecordSchema.Proofs.Document.Description
import RecordSchema.Proofs.Document.Remembered
import RecordSchema.Provider.Delegation

namespace RecordSchema

/-! Validation decides what a node without references says of a value, whatever the caches
hold: a remembered document may be that of another node, but only of an equal one. -/

variable {catalogue : Catalogue} {session : Session}

mutual
/-- A node without references has one document, and compiling it does nothing else. -/
theorem Descriptor.compileWith_of_providerFree :
    (node : Descriptor) → node.ProviderFree →
      ∃ document, ∀ expand, node.compileWith expand = pure document
  | .primitive options, _ => ⟨options.document, fun _ => rfl⟩
  | .mapping fields nullable, free => by
      obtain ⟨properties, compiled⟩ := compileFieldsWith_of_providerFree fields free
      refine ⟨mappingDocument fields nullable properties, fun expand => ?_⟩
      rw [Descriptor.compileWith, compiled expand, pure_bind]
  | .array element options, free => by
      obtain ⟨items, compiled⟩ := element.compileWith_of_providerFree free
      refine ⟨.type (TypeName.array.orNull options.nullable) :: .items items :: options.clauses,
        fun expand => ?_⟩
      rw [Descriptor.compileWith, compiled expand, pure_bind]
termination_by structural node => node

theorem compileFieldsWith_of_providerFree :
    (fields : List Field) → fieldsProviderFree fields →
      ∃ properties, ∀ expand, compileFieldsWith expand fields = pure properties
  | [], _ => ⟨[], fun _ => rfl⟩
  | ⟨name, descriptor, optional, key⟩ :: rest, free => by
      obtain ⟨document, first⟩ := descriptor.compileWith_of_providerFree free.1
      obtain ⟨properties, tail⟩ := compileFieldsWith_of_providerFree rest free.2
      refine ⟨(key.getD name, document) :: properties, fun expand => ?_⟩
      rw [compileFieldsWith, first expand, pure_bind, tail expand, pure_bind]
termination_by structural fields => fields
end

theorem Descriptor.compile_of_providerFree (catalogue : Catalogue) {node : Descriptor}
    (free : node.ProviderFree) : ∃ document, node.compile catalogue = pure document := by
  obtain ⟨document, compiled⟩ := node.compileWith_of_providerFree free
  exact ⟨document, compiled _⟩

theorem Descriptor.describedBy_of_providerFree {node : Descriptor} (free : node.ProviderFree)
    {document : Document} (compiled : (node.compile catalogue).outcome session = .ok document) :
    node.DescribedBy (fun _ _ _ => False) document := by
  obtain ⟨only, always⟩ := node.compileWith_of_providerFree free
  have equal : document = only := by
    have result : (node.compile catalogue).outcome session = .ok only := by
      rw [compile, expansionLimit, compileWithin, always, Action.outcome_pure]
    rw [compiled] at result
    exact Except.ok.inj result
  have describes : (node.compileWith (fun _ _ => Action.fault .recursion)).Yields
      (fun _ => True) (node.DescribedBy (fun _ _ _ => False)) :=
    node.compileWith_describes (fun _ _ => .fault _ _)
  rw [always, ← equal] at describes
  exact describes.gives {} document trivial rfl

theorem Descriptor.accepts_iff_satisfied {node : Descriptor} (free : node.ProviderFree)
    {document : Document} (compiled : (node.compile catalogue).outcome session = .ok document)
    (value : Value) : document.Accepts value ↔ node.Satisfied value := by
  have described := describedBy_of_providerFree free compiled
  exact ⟨node.admits_of_accepts (fun _ _ _ _ absurd _ => absurd.elim) described,
    node.accepts_of_admits (fun _ _ _ _ absurd _ => absurd.elim) described⟩

theorem Descriptor.compileCached_of_providerFree {node : Descriptor}
    (free : node.ProviderFree) {settings : Settings}
    (readable : Settings.read session.environment [] = .accepted settings) :
    ∃ document, (node.compileCached catalogue).outcome session = .ok document := by
  rcases compileCached_cases readable (node.hashable_of_providerFree free) with
    ⟨_, document, _, _, _, _, result, _⟩ | ⟨_, result, _⟩
  · exact ⟨document, result⟩
  · obtain ⟨document, compiled⟩ := Descriptor.compile_of_providerFree catalogue free
    rw [outcome_compileAndStore, compiled] at result
    exact ⟨document, result⟩

theorem Descriptor.outcome_issues (node : Descriptor) (value : Value) :
    (node.issues catalogue value).outcome session =
      match (node.compileCached catalogue).outcome session with
      | .ok document => .ok (document.issues value)
      | .error error => .error error := by
  unfold issues
  rw [Action.outcome_bind]
  cases (node.compileCached catalogue).outcome session <;> rfl

theorem Descriptor.outcome_issues_eq_nil {node : Descriptor} {value : Value} :
    (node.issues catalogue value).outcome session = .ok [] ↔
      ∃ document, (node.compileCached catalogue).outcome session = .ok document ∧
        document.Accepts value := by
  rw [outcome_issues]
  cases (node.compileCached catalogue).outcome session with
  | ok document => simp [Document.Accepts]
  | error error => simp

/-- In every session that calls can leave, and with settings that can be read, a value has
no issues with a node iff it satisfies it. -/
theorem Descriptor.issues_decide_satisfaction (reached : session.Reachable catalogue)
    (node : Descriptor) (free : node.ProviderFree) (value : Value) :
    match Settings.read session.environment [] with
    | .accepted _ => ∃ issues, (node.issues catalogue value).outcome session = .ok issues ∧
        (issues = [] ↔ node.Satisfied value)
    | .refused complaints =>
        (node.issues catalogue value).outcome session = .error (.refused complaints) := by
  rw [outcome_issues]
  cases readable : Settings.read session.environment [] with
  | refused complaints =>
      simp only [node.compileCached_of_refused readable]
  | accepted settings =>
      obtain ⟨document, result⟩ := compileCached_of_providerFree free readable
      obtain ⟨stored, origin, compiled, same⟩ := compileCached_compiled reached result
      simp only [result, Except.ok.injEq, exists_eq_left']
      rcases same with rfl | same
      · exact accepts_iff_satisfied free compiled value
      · rw [Satisfied, ← stored.admits_iff_of_same same value]
        exact accepts_iff_satisfied (stored.providerFree_of_same same free) compiled value

/-- The cache may hold the document of a node whose bound is spelled as a float. -/
theorem Descriptor.issues_decide_satisfaction_of_equal_bound :
    let catalogue : Catalogue := fun _ => .delegating
    let one : Binary64 := .finite false 4503599627370496 (-52)
    let whole : Descriptor := .primitive (.number { minimum := some (.int 1) })
    let float : Descriptor := .primitive (.number { minimum := some (.float one) })
    let document : Document := [.type (.one .number), .minimum (.float one)]
    let session : Session := Session.setCache {} 256 (Cache.store {} 256 float document)
    session.Reachable catalogue ∧ whole.ProviderFree ∧
      (whole.compileCached catalogue).outcome session = .ok document ∧
      ∃ issues, (whole.issues catalogue (.int 0)).outcome session = .ok issues ∧
        (issues = [] ↔ whole.Satisfied (.int 0)) := by
  intro catalogue one whole float document session
  have compiled : (float.compile catalogue).outcome {} = .ok document := rfl
  have reached : session.Reachable catalogue := ⟨{}, rfl, .single (.store compiled)⟩
  have free : whole.ProviderFree := trivial
  exact ⟨reached, free, rfl, whole.issues_decide_satisfaction reached free (.int 0)⟩

end RecordSchema
