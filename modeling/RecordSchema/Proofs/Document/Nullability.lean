import RecordSchema.Proofs.Document.Meaning

namespace RecordSchema

/-! Where null is valid.  A node that allows it lets it pass in a conversion; its document
does so too, unless it enumerates members, among which null never is. -/

variable {catalogue : Catalogue} {session : Session}

namespace Descriptor

/-- Null is asked for, by the option or by the kind. -/
def NullAllowed (node : Descriptor) : Prop :=
  node.nullable = true ∨
    ∃ options, node = .primitive options ∧ (options.kind = .null ∨ options.kind = .any)

/-- The members that a node enumerates, none if it leaves them open. -/
def members : Descriptor → List Value
  | .primitive options => options.members
  | _ => []

end Descriptor

theorem Primitive.admits_null_iff {options : Primitive} :
    options.Admits .null ↔
      (options.nullable = true ∨ options.kind = .null ∨ options.kind = .any) ∧
        options.members = [] := by
  have kindHolds : options.kind.Holds .null ↔ options.kind = .null ∨ options.kind = .any := by
    cases options <;> simp [kind, Kind.Holds]
  have enumerates : (∃ member ∈ options.members, Value.null.EqualsMember member) ↔ False := by
    simp [Value.EqualsMember]
  rw [admits_iff, kindHolds, enumerates]
  simp only [reduceCtorEq, false_implies, implies_true, true_and, and_true, imp_false,
    Decidable.not_not]
  refine and_congr_left (fun _ => or_comm)

namespace Descriptor

theorem satisfied_null_iff {node : Descriptor} (free : node.ProviderFree) :
    node.Satisfied .null ↔ node.NullAllowed ∧ node.members = [] := by
  cases node with
  | primitive options =>
      rw [Satisfied, Admits, Primitive.admits_null_iff]
      simp [NullAllowed, nullable, members]
  | mapping fields nullable =>
      simp [Satisfied, Admits, Value.IsDict, NullAllowed, Descriptor.nullable, members]
  | array element options =>
      simp [Satisfied, Admits, NullAllowed, nullable, members]
  | ref provider options => exact free.elim
  | foreign value => exact free.elim

/-- Whichever node's document the cache holds, it decides what the node asked for says. -/
theorem compileCached_accepts_iff (reached : session.Reachable catalogue) {node : Descriptor}
    (free : node.ProviderFree) {document : Document}
    (result : (node.compileCached catalogue).outcome session = .ok document) (value : Value) :
    document.Accepts value ↔ node.Satisfied value := by
  obtain ⟨stored, origin, compiled, same⟩ := compileCached_compiled reached result
  rcases same with rfl | same
  · exact accepts_iff_satisfied free compiled value
  · rw [Satisfied, ← stored.admits_iff_of_same same value]
    exact accepts_iff_satisfied (stored.providerFree_of_same same free) compiled value

theorem issues_eq_nil_iff (reached : session.Reachable catalogue) {node : Descriptor}
    (free : node.ProviderFree) {settings : Settings}
    (readable : Settings.read session.environment [] = .accepted settings) (value : Value) :
    (node.issues catalogue value).outcome session = .ok [] ↔ node.Satisfied value := by
  obtain ⟨document, result⟩ :
      ∃ document, (node.compileCached catalogue).outcome session = .ok document :=
    compileCached_of_providerFree free readable
  rw [outcome_issues_eq_nil, ← compileCached_accepts_iff reached free result]
  constructor
  · rintro ⟨other, also, accepted⟩
    rw [result] at also
    cases also
    exact accepted
  · intro accepted
    exact ⟨document, result, accepted⟩

theorem convert_null_of_allowed {node : Descriptor} (free : node.ProviderFree)
    (allowed : node.NullAllowed) :
    (node.convert catalogue .null).outcome session = .ok .null := by
  have passes : ∀ expand path found,
      Value.null.convertWith expand node path found = pure (.null, found) := by
    intro expand path found
    cases node with
    | primitive options => rfl
    | mapping fields nullable =>
        obtain rfl : nullable = true := by simpa [NullAllowed, Descriptor.nullable] using allowed
        rfl
    | array element options =>
        have nullable : options.nullable = true := by
          simpa [NullAllowed, Descriptor.nullable] using allowed
        simp [Value.convertWith, convertWhole, nullable]
    | ref provider options => exact free.elim
    | foreign value => exact free.elim
  rw [convert, completeConversion, passes, pure_bind]
  rfl

/-- In every session that calls can leave, and with settings that can be read, null has no
issues iff the node allows it and enumerates no members; then it is converted to itself. -/
theorem null_valid_iff (reached : session.Reachable catalogue) (node : Descriptor)
    (free : node.ProviderFree) :
    match Settings.read session.environment [] with
    | .accepted _ =>
        ((node.issues catalogue .null).outcome session = .ok [] ↔
            node.NullAllowed ∧ node.members = []) ∧
          ((node.issues catalogue .null).outcome session = .ok [] →
            ∀ later, (node.convert catalogue .null).outcome later = .ok .null)
    | .refused complaints =>
        (node.issues catalogue .null).outcome session = .error (.refused complaints) := by
  cases readable : Settings.read session.environment [] with
  | refused complaints => rw [outcome_issues, node.compileCached_of_refused readable]
  | accepted settings =>
      have decided : (node.issues catalogue .null).outcome session = .ok [] ↔
          node.NullAllowed ∧ node.members = [] := by
        rw [issues_eq_nil_iff reached free readable, satisfied_null_iff free]
      exact ⟨decided, fun valid _ => convert_null_of_allowed free (decided.mp valid).1⟩

/-- Bounds and an empty enumeration leave null valid. -/
theorem null_valid_iff_of_bounds :
    let catalogue : Catalogue := fun _ => .delegating
    let node : Descriptor :=
      .primitive (.string { nullable := true, minLength := some 1, enum := some [] })
    Session.Reachable catalogue {} ∧ node.ProviderFree ∧
      (node.issues catalogue .null).outcome {} = .ok [] ∧
      ∀ later, (node.convert catalogue .null).outcome later = .ok .null := by
  intro catalogue node
  have reached : Session.Reachable catalogue {} := ⟨{}, rfl, .refl⟩
  have free : node.ProviderFree := trivial
  obtain ⟨decided, converts⟩ := null_valid_iff reached node free
  have valid := decided.mpr ⟨.inl rfl, rfl⟩
  exact ⟨reached, free, valid, converts valid⟩

/-- An enumeration refuses null, though the option asks for it. -/
theorem null_refused_by_enumeration :
    let catalogue : Catalogue := fun _ => .delegating
    let node : Descriptor := .primitive (.integer { nullable := true, enum := some [1] })
    node.ProviderFree ∧ node.nullable = true ∧
      (node.convert catalogue .null).outcome {} = .ok .null ∧
      (node.issues catalogue .null).outcome {} = .ok [⟨[], "None is not one of [1]"⟩] := by
  intro catalogue node
  refine ⟨trivial, rfl, rfl, ?_⟩
  have compiled : (node.compileCached catalogue).outcome {} =
      .ok [.type (.oneOf [.integer, .null]), .enum (.integers [1])] := rfl
  rw [outcome_issues, compiled]
  exact congrArg Except.ok (List.mergeSort_singleton _)

end Descriptor

end RecordSchema
