import RecordSchema.Proofs.Conversion.Conduct
import RecordSchema.Proofs.Conversion.Walk
import RecordSchema.Proofs.Document.Meaning

namespace RecordSchema

/-! Whom the failures of a conversion go back to.  The conversion of a validated value
fails in references only, at their places or inside what they stand for. -/

/-- Whether a failure lies below a reference that the node reaches from a place. -/
def Descriptor.Blames (node : Descriptor) (place : Location) (failure : Failure) : Prop :=
  ∃ inner, place ++ inner <+: failure.path ∧
    ∃ provider options, node.at? inner = some (.ref provider options)

theorem Descriptor.blames_of_field {fields : List Field} {nullable : Bool} {key : Value}
    {field : Field} (found : Field.ofKey? fields key = some field) {place : Location}
    {failure : Failure} (blames : field.descriptor.Blames (place ++ [key]) failure) :
    (Descriptor.mapping fields nullable).Blames place failure := by
  obtain ⟨inner, below, provider, options, reached⟩ := blames
  refine ⟨key :: inner, by simpa using below, provider, options, ?_⟩
  rw [Descriptor.at?, found]
  exact reached

theorem Descriptor.blames_of_item {element : Descriptor} {options : ArrayOptions}
    {position : Nat} {place : Location} {failure : Failure}
    (blames : element.Blames (place ++ [.int position]) failure) :
    (Descriptor.array element options).Blames place failure := by
  obtain ⟨inner, below, provider, given, reached⟩ := blames
  exact ⟨.int position :: inner, by simpa using below, provider, given, reached⟩

def Grows (blamed : Failure → Prop) (found later : List Failure) : Prop :=
  ∃ more, later = found ++ more ∧ ∀ failure ∈ more, blamed failure

namespace Grows

variable {blamed wider : Failure → Prop} {found middle later : List Failure}

theorem refl : Grows blamed found found :=
  ⟨[], by simp, by simp⟩

theorem trans (first : Grows blamed found middle) (second : Grows blamed middle later) :
    Grows blamed found later := by
  obtain ⟨more, rfl, given⟩ := first
  obtain ⟨others, rfl, also⟩ := second
  refine ⟨more ++ others, by simp, fun failure member => ?_⟩
  rcases List.mem_append.mp member with left | right
  · exact given failure left
  · exact also failure right

theorem weaken (given : Grows blamed found later)
    (wide : ∀ failure, blamed failure → wider failure) : Grows wider found later := by
  obtain ⟨more, rfl, each⟩ := given
  exact ⟨more, rfl, fun failure member => wide failure (each failure member)⟩

end Grows

variable {holds : Session → Prop} {expand : Expansion}

theorem convertEntries_grows {fields : List Field} {path : Location}
    {blamed : Failure → Prop} (entries : Entries)
    (each : ∀ entry ∈ entries, ∃ field, Field.ofKey? fields entry.1 = some field ∧
      ∀ found, (entry.2.convertWith expand field.descriptor (path ++ [entry.1]) found).Yields
        holds (fun result => Grows blamed found result.2))
    (record : Entries) (found : List Failure) :
    (convertEntries expand entries fields path record found).Yields holds
      (fun result => Grows blamed found result.2) := by
  induction entries generalizing record found with
  | nil => exact .pure .refl
  | cons entry rest induction =>
      obtain ⟨key, item⟩ := entry
      rw [List.forall_mem_cons] at each
      obtain ⟨⟨field, belongs, converts⟩, tail⟩ := each
      rw [convertEntries]
      simp only [belongs]
      refine .bind (converts found) (fun result grown => ?_)
      exact (induction tail _ result.2).weaken (fun _ more => grown.trans more)

theorem convertItems_grows {element : Descriptor} {path : Location}
    {blamed : Failure → Prop} (items : List Value)
    (each : ∀ item ∈ items, ∀ (position : Nat) found,
      (item.convertWith expand element (path ++ [.int position]) found).Yields holds
        (fun result => Grows blamed found result.2))
    (position : Nat) (found : List Failure) :
    (convertItems expand items element path position found).Yields holds
      (fun result => Grows blamed found result.2) := by
  induction items generalizing position found with
  | nil => exact .pure .refl
  | cons item rest induction =>
      rw [List.forall_mem_cons] at each
      refine .bind (each.1 position found) (fun result grown => ?_)
      refine .bind (induction each.2 (position + 1) result.2) (fun values more => ?_)
      exact .pure (grown.trans more)

/-- An admitted value fails in references only, if a reference blames nothing outside. -/
theorem Value.convertWith_blames
    (expands : ∀ provider options value path found,
      (expand provider options value path found).Yields holds
        (fun result => Grows (fun failure => path <+: failure.path) found result.2))
    (value : Value) (node : Descriptor) (admitted : node.Admits (fun _ _ _ => True) value)
    (distinct : value.KeysDistinct) :
    ∀ path found, (value.convertWith expand node path found).Yields holds
      (fun result => Grows (node.Blames path) found result.2) := by
  refine Value.admitted_induction (motive := fun value node => ∀ path found,
    (value.convertWith expand node path found).Yields holds
      (fun result => Grows (node.Blames path) found result.2))
    ?whole ?mapping ?array ?ref value node admitted distinct
  case whole =>
      intro value node result passes path found
      rw [passes]
      exact .pure .refl
  case mapping =>
      intro kind entries fields nullable each path found
      refine .bind (convertEntries_grows entries (fun entry member => ?_) [] found)
        (fun result grown => .pure grown)
      obtain ⟨field, belongs, converts⟩ := each entry member
      refine ⟨field, belongs, fun found => (converts _ found).weaken (fun result grown => ?_)⟩
      exact grown.weaken (fun failure => Descriptor.blames_of_field belongs)
  case array =>
      intro items element options each path found
      refine .bind (convertItems_grows items (fun item member position found => ?_) 0 found)
        (fun result grown => .pure grown)
      refine (each item member _ found).weaken (fun result grown => ?_)
      exact grown.weaken (fun failure => Descriptor.blames_of_item)
  case ref =>
      intro value provider options _ refers path found
      rw [refers]
      refine (expands provider options value path found).weaken (fun result grown => ?_)
      exact grown.weaken (fun failure below =>
        ⟨[], by simpa using below, provider, options, rfl⟩)

/-! ### Conversion by providers -/

/-- Any change, and of conversion errors those of an origin only. -/
def Regime.raising (origin : List Failure → Value → Prop) : Regime where
  moves _ _ := True
  allows error := ∀ failures reason, error = .conversion failures reason → origin failures reason
  stays _ := trivial
  joins _ _ := trivial
  makes _ _ := trivial
  writes _ _ := trivial
  definition _ _ _ := nofun
  fault _ _ _ := nofun

/-- Any change, and any error but one of a conversion. -/
def Regime.unconverted : Regime :=
  .raising (fun _ _ => False)

/-- Only the conversion of a provider raises conversion errors, its `resolve` does not. -/
def Catalogue.ResolvesPlainly (catalogue : Catalogue) : Prop :=
  ∀ key id options session failures reason,
    ((catalogue key).resolve id options).outcome session ≠ .error (.conversion failures reason)

/-- A conversion error that, in some session, expanding a reference of the node raises: before
the provider is asked to convert, and at no place. -/
def Descriptor.Misresolves (catalogue : Catalogue) (node : Descriptor) (failures : List Failure)
    (reason : Value) : Prop :=
  ∃ provider options session, node.Reaches provider options ∧
    (catalogue.resolve provider options).outcome session = .error (.conversion failures reason)

section Providers

variable {catalogue : Catalogue}

theorem Catalogue.ResolvesPlainly.within (plainly : catalogue.ResolvesPlainly) :
    catalogue.ResolvesWithin .unconverted := by
  refine fun key id options => ⟨fun _ => trivial, fun session error failed => ?_⟩
  rintro failures reason rfl
  exact plainly key id options session failures reason failed

theorem Catalogue.ResolvesPlainly.not_misresolves (plainly : catalogue.ResolvesPlainly)
    {node : Descriptor} {failures : List Failure} {reason : Value} :
    ¬ node.Misresolves catalogue failures reason := by
  rintro ⟨provider, options, session, _, raised⟩
  exact (catalogue.resolve_within plainly.within provider options).allows session _ raised
    failures reason rfl

theorem mem_providerFailures {provider reason : Value} {path : Location}
    {failures : List Failure} {failure : Failure}
    (member : failure ∈ providerFailures provider path failures reason) :
    path <+: failure.path := by
  unfold providerFailures at member
  split at member
  · rw [List.mem_singleton] at member
    subst member
    exact List.prefix_rfl
  · obtain ⟨inner, _, rfl⟩ := List.mem_map.mp member
    exact List.prefix_append path inner.path

theorem expandWithin_grows (limit : Nat) (provider : Value) (options : Entries)
    (value : Value) (path : Location) (found : List Failure) :
    (expandWithin catalogue limit provider options value path found).Yields (fun _ => True)
      (fun result => Grows (fun failure => path <+: failure.path) found result.2) := by
  cases limit with
  | zero => exact .fault _ _
  | succ limit =>
      refine .after (fun resolved => ?_)
      refine .tryCatch (.after (fun _ => .pure .refl)) (fun error => ?_)
      cases error with
      | conversion failures reason =>
          exact .pure ⟨_, rfl, fun failure => mem_providerFailures⟩
      | _ => exact .throw _ _

/-- A reference raises no conversion error but that of its `resolve`. -/
theorem expandWithin_raises {origin : List Failure → Value → Prop} {provider : Value}
    {options : Entries}
    (raised : ∀ session failures reason, (catalogue.resolve provider options).outcome session =
      .error (.conversion failures reason) → origin failures reason)
    (limit : Nat) (value : Value) (path : Location) (found : List Failure) :
    (expandWithin catalogue limit provider options value path found).Within
      (.raising origin) := by
  cases limit with
  | zero => exact .fault .recursion
  | succ limit =>
      have resolves : (catalogue.resolve provider options).Within (.raising origin) := by
        refine ⟨fun _ => trivial, fun session error failed failures reason same => ?_⟩
        exact raised session failures reason (failed.trans (congrArg _ same))
      refine .bind resolves (fun resolved => .tryCatch (fun _ => trivial) (fun _ error _ => ?_))
      cases error with
      | conversion failures reason => exact .pure _
      | _ => exact .throw nofun

theorem completeConversion_failed {expand : Expansion} {node : Descriptor} {value : Value}
    {session : Session} {failures : List Failure} {reason : Value}
    (failed : (completeConversion expand node value).outcome session =
      .error (.conversion failures reason)) :
    (∃ result, (value.convertWith expand node [] []).outcome session = .ok (result, failures)) ∨
      (value.convertWith expand node [] []).outcome session =
        .error (.conversion failures reason) := by
  unfold completeConversion at failed
  rw [Action.outcome_bind] at failed
  cases walked : (value.convertWith expand node [] []).outcome session with
  | error error =>
      rw [walked] at failed
      cases failed
      exact .inr rfl
  | ok result =>
      rw [walked] at failed
      dsimp only at failed
      split at failed
      · exact nomatch failed
      · rw [Action.outcome_bind_of_ok (Action.outcome_write _ _ _)] at failed
        cases failed
        exact .inl ⟨result.1, rfl⟩

/-- A conversion that raises an error has walked through the value, unless a `resolve` has
raised it. -/
theorem Descriptor.convert_failed {node : Descriptor} {value : Value} {session : Session}
    {failures : List Failure} {reason : Value}
    (failed : (node.convert catalogue value).outcome session =
      .error (.conversion failures reason)) :
    (∃ result, (value.convertWith (expandWithin catalogue expansionLimit) node [] []).outcome
        session = .ok (result, failures)) ∨
      node.Misresolves catalogue failures reason := by
  refine (completeConversion_failed failed).imp_right (fun raised => ?_)
  let discipline := (Regime.raising (node.Misresolves catalogue)).discipline
  have expands : discipline.ExpandingIn node (expandWithin catalogue expansionLimit) :=
    fun provider options reached => expandWithin_raises
      (fun session _ _ unresolved => ⟨provider, options, session, reached, unresolved⟩)
      expansionLimit
  have within : Action.Within (.raising (node.Misresolves catalogue)) _ :=
    Discipline.convertWith value node expands [] []
  exact within.allows session _ raised failures reason rfl

end Providers

/-! ### Validated values -/

section Validated

variable {catalogue : Catalogue} {session : Session}

/-- A validated value has the shape that the node asks for, except in references. -/
theorem Descriptor.admits_of_issues_nil (reached : session.Reachable catalogue)
    {node : Descriptor} {value : Value}
    (valid : (node.issues catalogue value).outcome session = .ok []) :
    node.Admits (fun _ _ _ => True) value := by
  obtain ⟨document, result, accepted⟩ := outcome_issues_eq_nil.mp valid
  obtain ⟨stored, origin, compiled, same⟩ := compileCached_compiled reached result
  have admitted : stored.Admits (fun _ _ _ => True) value :=
    stored.admits_of_accepts (fun _ _ _ _ _ _ => trivial)
      (describedBy_of_compile compiled) accepted
  rcases same with rfl | same
  · exact admitted
  · exact (stored.admits_iff_of_same same value).mp admitted

theorem convertEntries_of_pure {fields : List Field} (entries : Entries)
    (each : ∀ entry ∈ entries, ∃ field, Field.ofKey? fields entry.1 = some field ∧
      ∃ result, ∀ expand path found,
        entry.2.convertWith expand field.descriptor path found = pure (result, found))
    (record : Entries) :
    ∃ result, ∀ expand path found,
      convertEntries expand entries fields path record found = pure (result, found) := by
  induction entries generalizing record with
  | nil => exact ⟨record, fun _ _ _ => rfl⟩
  | cons entry rest induction =>
      obtain ⟨key, item⟩ := entry
      rw [List.forall_mem_cons] at each
      obtain ⟨⟨field, belongs, value, converts⟩, tail⟩ := each
      obtain ⟨result, others⟩ := induction tail (record.insert (.text field.name) value)
      refine ⟨result, fun expand path found => ?_⟩
      rw [convertEntries]
      simp only [belongs]
      rw [converts, pure_bind]
      exact others expand path found

theorem convertItems_of_pure {element : Descriptor} (items : List Value)
    (each : ∀ item ∈ items, ∃ result, ∀ expand path found,
      item.convertWith expand element path found = pure (result, found)) :
    ∃ result, ∀ expand path (position : Nat) found,
      convertItems expand items element path position found = pure (result, found) := by
  induction items with
  | nil => exact ⟨[], fun _ _ _ _ => rfl⟩
  | cons item rest induction =>
      rw [List.forall_mem_cons] at each
      obtain ⟨⟨value, converts⟩, tail⟩ := each
      obtain ⟨values, others⟩ := induction tail
      refine ⟨value :: values, fun expand path position found => ?_⟩
      rw [convertItems, converts, pure_bind]
      dsimp only
      rw [others, pure_bind]

theorem Value.convertWith_of_providerFree (value : Value) (node : Descriptor)
    (admitted : node.Admits (fun _ _ _ => False) value) (distinct : value.KeysDistinct) :
    ∃ result, ∀ expand path found,
      value.convertWith expand node path found = pure (result, found) := by
  refine Value.admitted_induction (motive := fun value node => ∃ result, ∀ expand path found,
    value.convertWith expand node path found = pure (result, found))
    ?whole ?mapping ?array ?ref value node admitted distinct
  case whole =>
      intro value node result passes
      exact ⟨result, passes⟩
  case mapping =>
      intro kind entries fields nullable each
      obtain ⟨record, converts⟩ := convertEntries_of_pure entries each []
      refine ⟨.map .record record, fun expand path found => ?_⟩
      rw [Value.convertWith]
      dsimp only
      rw [converts, pure_bind]
  case array =>
      intro items element options each
      obtain ⟨values, converts⟩ := convertItems_of_pure items each
      refine ⟨.list values, fun expand path found => ?_⟩
      rw [Value.convertWith]
      dsimp only
      rw [converts, pure_bind]
  case ref =>
      intro value provider options impossible _
      exact impossible.elim

/-- A value without issues fails to convert in references only, and not at all if there
are none.  The conversion may take place in any session.  If the `resolve` of a reference is what
raises the error, its failures lie where the provider says. -/
theorem Descriptor.convert_fails_in_references (reached : session.Reachable catalogue)
    (node : Descriptor) (value : Value) (distinct : value.KeysDistinct)
    (valid : (node.issues catalogue value).outcome session = .ok []) :
    (∀ later failures reason,
      (node.convert catalogue value).outcome later = .error (.conversion failures reason) →
        (∀ failure ∈ failures, ∃ inner, inner <+: failure.path ∧
          ∃ provider options, node.at? inner = some (.ref provider options)) ∨
        node.Misresolves catalogue failures reason) ∧
      (node.ProviderFree → ∃ result, ∀ later,
        (node.convert catalogue value).outcome later = .ok result) := by
  have admitted := admits_of_issues_nil reached valid
  constructor
  · intro later failures reason failed
    refine (convert_failed failed).imp_left (fun ⟨result, walked⟩ failure member => ?_)
    have grows := @expandWithin_grows catalogue expansionLimit
    have blames := value.convertWith_blames grows node admitted distinct [] []
    obtain ⟨more, equal, each⟩ := blames.gives later _ trivial walked
    have among : failure ∈ more := by
      rw [show failures = more from equal] at member
      exact member
    obtain ⟨inner, below, reached⟩ := each failure among
    exact ⟨inner, below, reached⟩
  · intro free
    obtain ⟨result, converts⟩ := value.convertWith_of_providerFree node
      (node.admits_of_providerFree free value admitted) distinct
    refine ⟨result, fun later => ?_⟩
    rw [convert, completeConversion, converts, pure_bind]
    rfl

theorem Descriptor.convert_fails_in_references_of_rejection :
    let catalogue : Catalogue := fun _ =>
      { resolve := fun _ _ => pure (.text "any")
        convertValue := fun _ _ _ _ => throw (.conversion [] (.text "closed")) }
    let node : Descriptor :=
      .array (.ref (.provider { key := "Gate", typeName := "Gate" } 0) []) {}
    let value : Value := .list [.null]
    let failures : List Failure := [.providerRejection [.int 0] "Gate" (.text "closed")]
    Session.Reachable catalogue {} ∧ value.KeysDistinct ∧
      (node.issues catalogue value).outcome {} = .ok [] ∧
      (node.convert catalogue value).outcome {} = .error (.conversion failures .null) ∧
      ¬ node.Misresolves catalogue failures .null ∧
      ∀ failure ∈ failures, ∃ inner, inner <+: failure.path ∧
        ∃ provider options, node.at? inner = some (.ref provider options) := by
  intro catalogue node value failures
  have reached : Session.Reachable catalogue {} := ⟨{}, rfl, .refl⟩
  have distinct : value.KeysDistinct := ⟨trivial, trivial, trivial⟩
  have valid : (node.issues catalogue value).outcome {} = .ok [] :=
    outcome_issues_eq_nil.mpr
      ⟨[.type (.one .array), .items [.type (.oneOf TypeName.all)]], rfl,
        Document.accepts_iff_rawIssues.mpr rfl⟩
  have failed : (node.convert catalogue value).outcome {} =
      .error (.conversion failures .null) := rfl
  have plainly : catalogue.ResolvesPlainly := nofun
  have resolves : ¬ node.Misresolves catalogue failures .null :=
    plainly.not_misresolves
  exact ⟨reached, distinct, valid, failed, resolves,
    ((convert_fails_in_references reached node value distinct valid).1 {} failures .null
      failed).resolve_right resolves⟩

/-- Resolves an object once.  Asked again, it fails as if it converted. -/
def Behaviour.resolvingOnce (failure : Failure) : Behaviour where
  resolve id _ := do
    match (← get).instances.stateOf id with
    | .null =>
        modify (fun session =>
          { session with instances := session.instances.remember id (.bool true) })
        return .text Kind.any.name
    | _ => throw (.conversion [failure] .null)
  convertValue _ _ _ value := return value

theorem Descriptor.convert_fails_outside_references :
    let failure : Failure := ⟨[.text "zzz"], "no", .stated⟩
    let catalogue : Catalogue := fun _ => .resolvingOnce failure
    let node : Descriptor :=
      .array (.ref (.provider { key := "Once", typeName := "Once" } 0) []) {}
    let value : Value := .list [.int 1]
    Session.Reachable catalogue {} ∧ value.KeysDistinct ∧
      (node.issues catalogue value).outcome {} = .ok [] ∧
      (node.convert catalogue value).outcome ((node.issues catalogue value).after {}) =
        .error (.conversion [failure] .null) ∧
      ¬ ∃ inner, inner <+: failure.path ∧
        ∃ provider options, node.at? inner = some (.ref provider options) := by
  intro failure catalogue node value
  have valid : (node.issues catalogue value).outcome {} = .ok [] :=
    outcome_issues_eq_nil.mpr
      ⟨[.type (.one .array), .items [.type (.oneOf TypeName.all)]], rfl,
        Document.accepts_iff_rawIssues.mpr rfl⟩
  refine ⟨⟨{}, rfl, .refl⟩, ⟨trivial, trivial, trivial⟩, valid, rfl, ?_⟩
  rintro ⟨inner, below, provider, options, reached⟩
  cases inner with
  | nil =>
      have root : some (Descriptor.array _ _) = some (.ref provider options) := reached
      cases root
  | cons key rest =>
      obtain ⟨rfl, _⟩ := List.cons_prefix_cons.mp below
      have outside : node.at? (.text "zzz" :: rest) = none := rfl
      cases outside.symm.trans reached

end Validated

end RecordSchema
