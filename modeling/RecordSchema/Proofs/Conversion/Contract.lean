import RecordSchema.Proofs.Conversion.Conduct
import RecordSchema.Proofs.Conversion.Walk
import RecordSchema.Proofs.Document.Constancy
import RecordSchema.Proofs.Document.Meaning
import RecordSchema.Provider.Delegation

namespace RecordSchema

/-! What providers may rely on.  Validation compiles what a reference stands for once,
conversion resolves the reference again at every place; over providers whose answers depend
on their options only, what is handed to a provider then satisfies what it is handed with. -/

/-! ### Handing over -/

/-- A value on its way to a provider, with the node that its reference stands for and the
session at that moment. -/
structure Handover where
  session : Session
  resolved : Descriptor
  value : Value

def convertResolved (catalogue : Catalogue) (limit : Nat) (provider : Value)
    (resolved : Descriptor) (value : Value) (path : Location) (found : List Failure) :
    Action Converted :=
  tryCatch
    (do
      let convert := completeConversion (expandWithin catalogue limit)
      return (← catalogue.convertValue convert provider resolved value, found))
    (fun error =>
      match error with
      | .conversion failures reason =>
          return (.null, found ++ providerFailures provider path failures reason)
      | error => throw error)

theorem expandWithin_succ (catalogue : Catalogue) (limit : Nat) (provider : Value)
    (options : Entries) (value : Value) (path : Location) (found : List Failure) :
    expandWithin catalogue (limit + 1) provider options value path found = (do
      let resolved ← catalogue.resolve provider options
      convertResolved catalogue limit provider resolved value path found) := rfl

/-- Conversion by providers, with a watch over what they are handed.  Whatever happens
inside a reference is not watched. -/
def expandWatched (catalogue : Catalogue) (watch : Descriptor → Value → Action Unit) :
    Nat → Expansion
  | 0 => fun _ _ _ _ _ => Action.fault .recursion
  | limit + 1 => fun provider options value path found => do
      let resolved ← catalogue.resolve provider options
      watch resolved value
      convertResolved catalogue limit provider resolved value path found

def Descriptor.fromWatched (catalogue : Catalogue) (watch : Descriptor → Value → Action Unit)
    (node : Descriptor) (value : Value) : Action Value := do
  node.validate catalogue value
  completeConversion (expandWatched catalogue watch expansionLimit) node value

theorem expandWatched_pure (catalogue : Catalogue) (limit : Nat) :
    expandWatched catalogue (fun _ _ => pure ()) limit = expandWithin catalogue limit := by
  cases limit with
  | zero => rfl
  | succ limit => rfl

/-- A watch that never interferes leaves the call as it is. -/
theorem Descriptor.fromWatched_pure (catalogue : Catalogue) (node : Descriptor) (value : Value) :
    node.fromWatched catalogue (fun _ _ => pure ()) value = node.fromValid catalogue value := by
  rw [fromWatched, expandWatched_pure]
  rfl

/-- The watch lets a value through and does nothing else. -/
def Handover.Passes (handover : Handover) (watch : Descriptor → Value → Action Unit) : Prop :=
  (watch handover.resolved handover.value).run.run handover.session = (.ok (), handover.session)

/-- Whether the conversion of a value comes by a handover: a watch that interferes there and
nowhere else makes a difference. -/
def Descriptor.HandsOver (catalogue : Catalogue) (node : Descriptor) (value : Value)
    (session : Session) (handover : Handover) : Prop :=
  ∃ watch, (∀ other, other ≠ handover → other.Passes watch) ∧
    (node.fromWatched catalogue watch value).run.run session ≠
      (node.fromValid catalogue value).run.run session

open Classical in
noncomputable def Handover.stop (handover : Handover) (resolved : Descriptor) (value : Value) :
    Action Unit :=
  fun session =>
    if Handover.mk session resolved value = handover then (.error (.fault .type), session)
    else (.ok (), session)

theorem Handover.passes_stop {handover other : Handover} (differs : other ≠ handover) :
    other.Passes handover.stop :=
  if_neg differs

theorem Handover.outcome_stop (handover : Handover) :
    (handover.stop handover.resolved handover.value).outcome handover.session =
      .error (.fault .type) :=
  congrArg Prod.fst (if_pos rfl)

theorem Descriptor.handsOver_of_stopped {catalogue : Catalogue} {node : Descriptor}
    {value : Value} {session : Session} {handover : Handover}
    (stopped : (node.fromWatched catalogue handover.stop value).outcome session ≠
      (node.fromValid catalogue value).outcome session) :
    node.HandsOver catalogue value session handover :=
  ⟨handover.stop, fun _ => Handover.passes_stop, fun same => stopped (congrArg Prod.fst same)⟩

/-- The value satisfies the document of what its reference stands for. -/
def Handover.Valid (catalogue : Catalogue) (handover : Handover) : Prop :=
  ∃ document, (handover.resolved.compile catalogue).outcome handover.session = .ok document ∧
    document.issues handover.value = []

/-! ### What providers are handed -/

section Handed

variable {catalogue : Catalogue} {session : Session}

theorem expandWatched_of_passes {watch : Descriptor → Value → Action Unit} {provider : Value}
    {options : Entries} {item : Value} (limit : Nat)
    (passes : ∀ now resolved, (catalogue.resolve provider options).outcome now = .ok resolved →
      Handover.Passes ⟨(catalogue.resolve provider options).after now, resolved, item⟩ watch) :
    expandWatched catalogue watch (limit + 1) provider options item =
      expandWithin catalogue (limit + 1) provider options item := by
  funext path found now
  rw [expandWithin_succ]
  change (catalogue.resolve provider options >>= fun resolved => watch resolved item >>= fun _ =>
      convertResolved catalogue limit provider resolved item path found).run.run now =
    (catalogue.resolve provider options >>= fun resolved =>
      convertResolved catalogue limit provider resolved item path found).run.run now
  cases given : (catalogue.resolve provider options).outcome now with
  | error error => rw [Action.run_bind_of_error given, Action.run_bind_of_error given]
  | ok resolved =>
      have through := passes now resolved given
      rw [Action.run_bind_of_ok given, Action.run_bind_of_ok given,
        Action.run_bind_of_run through]

namespace Descriptor

theorem compile_of_compileCached_of_empty (fresh : session.caches = []) {node : Descriptor}
    {document : Document}
    (result : (node.compileCached catalogue).outcome session = .ok document) :
    ∃ begun, Regime.settled.moves session begun ∧
      (node.compile catalogue).outcome begun = .ok document := by
  obtain ⟨⟨settings, readable⟩, hashable⟩ := readable_and_hashable_of_compileCached result
  rcases compileCached_cases readable hashable with
    ⟨stored, _, _, _, remembered, _⟩ | ⟨_, answer, _⟩
  · obtain ⟨slot, member, _⟩ := remembered
    rw [fresh] at member
    exact nomatch member
  · rw [result, outcome_compileAndStore] at answer
    refine ⟨_, ?_, answer.symm⟩
    exact ⟨rfl, rfl⟩

theorem outcome_validate_of_issues {node : Descriptor} {value : Value} {issues : List Issue}
    (found : (node.issues catalogue value).outcome session = .ok issues) :
    (node.validate catalogue value).outcome session =
      if issues.isEmpty then .ok () else .error (.invalidInput issues) := by
  unfold validate
  rw [Action.outcome_bind_of_ok found]
  cases issues <;> rfl

theorem issues_nil_of_validate {node : Descriptor} {value : Value}
    (valid : (node.validate catalogue value).outcome session = .ok ()) :
    (node.issues catalogue value).outcome session = .ok [] := by
  obtain ⟨issues, found, _⟩ := Action.outcome_bind_eq_ok.mp valid
  rw [outcome_validate_of_issues found] at valid
  cases issues with
  | nil => exact found
  | cons issue rest => exact nomatch valid

theorem run_validate_of_accepts {node : Descriptor} {value : Value} {document : Document}
    (result : (node.compileCached catalogue).outcome session = .ok document)
    (accepted : document.Accepts value) :
    (node.validate catalogue value).run.run session =
      (.ok (), (node.compileCached catalogue).after session) := by
  have issues : (node.issues catalogue value).outcome session = .ok [] :=
    outcome_issues_eq_nil.mpr ⟨document, result, accepted⟩
  have left : (node.issues catalogue value).after session =
      (node.compileCached catalogue).after session := Action.after_bind_of_ok result
  unfold validate
  rw [Action.run_bind_of_ok issues, left]
  rfl

theorem admits_of_validate (settled : catalogue.ResolvesWithin .settled)
    (fresh : session.caches = []) {node : Descriptor} {value : Value}
    (valid : (node.validate catalogue value).outcome session = .ok ()) :
    node.Admits (catalogue.Vouches session) value := by
  obtain ⟨document, result, accepted⟩ := outcome_issues_eq_nil.mp (issues_nil_of_validate valid)
  obtain ⟨begun, kept, compiled⟩ := compile_of_compileCached_of_empty fresh result
  obtain ⟨limit, deep⟩ : ∃ limit, expansionLimit = limit + 1 := ⟨999, rfl⟩
  rw [compile, deep] at compiled
  have described := (node.compileWithin_describes settled limit).gives begun _ kept compiled
  refine node.admits_of_accepts ?_ described accepted
  intro provider options part item compiles accepts
  exact ⟨limit, part, deep, compiles, accepts⟩

/-- A watch that lets every valid handover through makes no difference at a reference that
validation has compiled. -/
theorem expandWatched_of_vouches (answers : catalogue.ResolvesByOptions)
    (settled : catalogue.ResolvesWithin .settled) {watch : Descriptor → Value → Action Unit}
    (passes : ∀ handover : Handover,
      (Regime.settled.moves session handover.session → handover.Valid catalogue) →
        handover.Passes watch)
    {provider : Value} {options : Entries} {item : Value}
    (vouched : catalogue.Vouches session provider options item) :
    expandWatched catalogue watch expansionLimit provider options item =
      expandWithin catalogue expansionLimit provider options item := by
  obtain ⟨limit, document, deep, compiles, accepts⟩ := vouched
  rw [deep]
  refine expandWatched_of_passes limit (fun now resolved given => ?_)
  refine passes _ (fun keptAfter => ?_)
  have resolves := (catalogue.resolve_within settled provider options).moves now
  have keptNow : Regime.settled.moves session now :=
    ⟨resolves.1.symm.trans keptAfter.1, resolves.2.symm.trans keptAfter.2⟩
  have again := compiles.again answers settled keptNow given
  refine ⟨document, ?_, accepts⟩
  rw [compile, deep]
  exact (compileWithin_extends catalogue limit resolved _ _ again).1

theorem fromWatched_of_passes (answers : catalogue.ResolvesByOptions)
    (settled : catalogue.ResolvesWithin .settled) (fresh : session.caches = [])
    (node : Descriptor) (value : Value) (distinct : value.KeysDistinct)
    {watch : Descriptor → Value → Action Unit}
    (passes : ∀ handover : Handover,
      (Regime.settled.moves session handover.session → handover.Valid catalogue) →
        handover.Passes watch) :
    (node.fromWatched catalogue watch value).run.run session =
      (node.fromValid catalogue value).run.run session := by
  unfold fromWatched fromValid
  cases checked : (node.validate catalogue value).outcome session with
  | error error => rw [Action.run_bind_of_error checked, Action.run_bind_of_error checked]
  | ok passed =>
      have same := value.convertWith_congr
        (fun _ _ _ => expandWatched_of_vouches answers settled passes) node
        (admits_of_validate settled fresh checked) distinct
      rw [Action.run_bind_of_ok checked, Action.run_bind_of_ok checked]
      unfold convert completeConversion
      rw [same]

theorem compileWithin_congr {other : Catalogue}
    (same : ∀ key, (other key).resolve = (catalogue key).resolve) (limit : Nat)
    (node : Descriptor) :
    node.compileWithin other limit = node.compileWithin catalogue limit := by
  induction limit generalizing node with
  | zero => rfl
  | succ limit induction =>
      unfold compileWithin Catalogue.resolve
      simp only [same, induction]

theorem validate_congr {other : Catalogue}
    (same : ∀ key, (other key).resolve = (catalogue key).resolve) (node : Descriptor)
    (value : Value) : node.validate other value = node.validate catalogue value := by
  unfold validate issues compileCached compileAndStore compile
  simp only [compileWithin_congr same]

/-- Whatever the conversion hands to a provider has no issues with what it is handed with, as
long as the registry and the settings are those of the call.  A value with issues is not
handed to anyone: the call ends alike however providers convert. -/
theorem hands_over_valid_only (answers : catalogue.ResolvesByOptions)
    (settled : catalogue.ResolvesWithin .settled) (fresh : session.caches = [])
    (node : Descriptor) (value : Value) (distinct : value.KeysDistinct) :
    (∀ handover, node.HandsOver catalogue value session handover →
      handover.session.environment = session.environment →
        handover.session.registry = session.registry → handover.Valid catalogue) ∧
      ∀ issues, (node.issues catalogue value).outcome session = .ok issues → issues ≠ [] →
        (∀ handover, ¬ node.HandsOver catalogue value session handover) ∧
          ∀ other : Catalogue, (∀ key, (other key).resolve = (catalogue key).resolve) →
            (node.fromValid other value).run.run session =
              (.error (.invalidInput issues), (node.validate catalogue value).after session) := by
  constructor
  · rintro handover ⟨watch, elsewhere, differs⟩ environment registry
    by_contra bad
    refine differs (fromWatched_of_passes answers settled fresh node value distinct ?_)
    intro passing good
    apply elsewhere passing
    rintro rfl
    exact bad (good ⟨environment, registry⟩)
  · intro issues found some
    have rejected : (node.validate catalogue value).outcome session =
        .error (.invalidInput issues) := by
      rw [outcome_validate_of_issues found]
      exact if_neg (by simpa using some)
    constructor
    · rintro handover ⟨watch, _, differs⟩
      apply differs
      unfold fromWatched fromValid
      rw [Action.run_bind_of_error rejected, Action.run_bind_of_error rejected]
    · intro other same
      unfold fromValid
      rw [validate_congr same]
      exact Action.run_bind_of_error rejected

theorem hands_over_valid_only_of_delegation :
    let catalogue : Catalogue := fun _ => .delegating
    let provider : Value := .provider { key := "Gate", typeName := "Gate" } 0
    let options : Entries := [(.text "spec", .text "integer")]
    let node : Descriptor := .array (.ref provider options) {}
    let value : Value := .list [.int 1]
    let compiled : Session := (node.compileCached catalogue).after {}
    let handover : Handover :=
      ⟨(catalogue.resolve provider options).after compiled, .primitive (.integer {}), .int 1⟩
    catalogue.ResolvesByOptions ∧ catalogue.ResolvesWithin .settled ∧
      ({} : Session).caches = [] ∧ value.KeysDistinct ∧
      node.HandsOver catalogue value {} handover ∧ handover.Valid catalogue := by
  intro catalogue provider options node value compiled handover
  have answers : catalogue.ResolvesByOptions := Behaviour.delegating_resolvesByOptions
  have settled : catalogue.ResolvesWithin .settled := fun _ _ _ => .pure _
  have distinct : value.KeysDistinct := ⟨trivial, trivial, trivial⟩
  have accepted : Document.Accepts [.type (.one .array), .items [.type (.one .integer)]] value :=
    Document.accepts_iff_rawIssues.mpr rfl
  have validates : (node.validate catalogue value).run.run {} = (.ok (), compiled) :=
    run_validate_of_accepts rfl accepted
  have valid : (node.validate catalogue value).outcome {} = .ok () :=
    congrArg Prod.fst validates
  have left : (node.validate catalogue value).after {} = compiled :=
    congrArg Prod.snd validates
  have refused : ((Value.int 1).convertWith
      (expandWatched catalogue handover.stop expansionLimit) (.ref provider options) [.int 0]
      []).outcome compiled = .error (.fault .type) := by
    have resolves : (catalogue.resolve provider options).outcome compiled =
        .ok (.primitive (.integer {})) := rfl
    refine (Action.outcome_bind_of_ok resolves).trans ?_
    exact Action.outcome_bind_of_error handover.outcome_stop
  have stopped : (node.fromWatched catalogue handover.stop value).outcome {} =
      .error (.fault .type) := by
    unfold fromWatched
    rw [Action.outcome_bind_of_ok valid, left]
    apply Action.outcome_bind_of_error
    apply Action.outcome_bind_of_error
    exact Action.outcome_bind_of_error refused
  have done : (node.fromValid catalogue value).outcome {} = .ok (.list [.int 1]) := by
    unfold fromValid
    rw [Action.outcome_bind_of_ok valid, left]
    rfl
  have hands : node.HandsOver catalogue value {} handover := by
    apply handsOver_of_stopped
    rw [stopped, done]
    exact nofun
  exact ⟨answers, settled, rfl, distinct, hands,
    (hands_over_valid_only answers settled rfl node value distinct).1 handover hands rfl rfl⟩

end Descriptor

end Handed

end RecordSchema
