import RecordSchema.Proofs.Conversion.Delegation
import RecordSchema.Proofs.Session.Calls

namespace RecordSchema

/-! Delegating a part of a description goes unnoticed: the document, the issues and what values
convert to stay as they are.  A reference takes an expansion, so there has to be one left. -/

namespace Value

def compileWithin (catalogue : Catalogue) (limit : Nat) (spec : Value) : Action Document := do
  (← spec.toDescriptor).compileWithin catalogue limit

def issues (catalogue : Catalogue) (spec value : Value) : Action (List Issue) := do
  (← spec.toDescriptor).issues catalogue value

def convertWithin (catalogue : Catalogue) (limit : Nat) (spec value : Value) : Action Value := do
  completeConversion (expandWithin catalogue limit) (← spec.toDescriptor) value

def convert (catalogue : Catalogue) (spec value : Value) : Action Value := do
  (← spec.toDescriptor).convert catalogue value

end Value

/-- One outcome, unless there are too few expansions: then those of the shorter run do not
suffice for it either. -/
def SameUnless (short : Except Error β) (outcome other : Except Error α) : Prop :=
  outcome = other ∨ (Exhausted outcome ∧ Exhausted short)

theorem SameUnless.map {short : Except Error γ} {outcome other : Except Error α}
    (same : SameUnless short outcome other) (f : α → β) :
    SameUnless short (outcome.map f) (other.map f) := by
  rcases same with rfl | ⟨spent, less⟩
  · exact .inl rfl
  · rw [Exhausted] at spent
    rw [spent]
    exact .inr ⟨rfl, less⟩

theorem SameUnless.same {short : Except Error β} {outcome other : Except Error α}
    (same : SameUnless short outcome other) (enough : ¬ Exhausted short) : outcome = other :=
  same.resolve_right (fun spent => enough spent.2)

theorem Side.beyond_left : Side.left.Beyond (expansionLimit - 1) expansionLimit :=
  Nat.sub_one_lt (by decide)

theorem Side.beyond_right : Side.right.Beyond expansionLimit expansionLimit :=
  Nat.le_refl _

/-- The second run has as many expansions as the first, and the shorter one has fewer. -/
theorem Action.Shadows.sameUnless {states : Session → Session → Prop} {short whole other : Action α}
    {begun first second : Session} (less : Shadows .left states Eq short other)
    (more : Shadows .right states Eq whole other) (shorter : states begun second)
    (kept : states first second) :
    SameUnless (short.outcome begun) (other.outcome second) (whole.outcome first) := by
  rcases more first second kept with spent | ⟨outcomes, _⟩
  · rcases less begun second shorter with out | ⟨same, _⟩
    · exact .inr ⟨spent, out⟩
    · refine .inr ⟨spent, ?_⟩
      rcases same.of_eq with ⟨value, _, _, also, rfl⟩ | ⟨error, failed, also⟩
      · exact absurd (also.symm.trans spent) (not_exhausted_ok value)
      · exact failed.trans (also.symm.trans spent)
  · rcases outcomes.of_eq with ⟨value, _, given, also, rfl⟩ | ⟨error, failed, also⟩
    · exact .inl (also.trans given.symm)
    · exact .inl (also.trans failed.symm)

/-! ### Nodes -/

section Nodes

variable {catalogue : Catalogue} {d : Delegate} {start : Session}

namespace Descriptor

theorem outcome_compileCached_of_empty {session : Session} (fresh : session.caches = [])
    {node : Descriptor} {settings : Settings}
    (readable : Settings.read session.environment [] = .accepted settings)
    (hashable : node.hashable = true) :
    (node.compileCached catalogue).outcome session =
      (node.compile catalogue).outcome
        ((Action.write compilerLogger Log.debug
          s!"Compile cache miss for {node.typeName}").after session) := by
  rcases compileCached_cases readable hashable with ⟨_, _, _, _, ⟨_, member, _⟩, _⟩ | ⟨_, result, _⟩
  · rw [fresh] at member
    exact nomatch member
  · rw [result, outcome_compileAndStore]

theorem Stands.compileCached_sameUnless (able : d.provider.Able)
    (delegating : catalogue d.provider.key = .delegating)
    (resolves : catalogue.ResolvesAbreast d start) (objects : start.registry.HoldsObjects)
    {node other : Descriptor} (stands : Stands d start node other) {first second : Session}
    (abreast : Session.Abreast d start first second) (empty : first.caches = [])
    (also : second.caches = []) :
    SameUnless ((node.compileWithin catalogue (expansionLimit - 1)).outcome first)
      ((other.compileCached catalogue).outcome second)
      ((node.compileCached catalogue).outcome first) := by
  have environment : second.environment = first.environment :=
    abreast.right.1.trans abreast.left.1.symm
  cases readable : Settings.read first.environment [] with
  | refused complaints =>
      have same := readable
      rw [← environment] at same
      rw [node.compileCached_of_refused readable, other.compileCached_of_refused same]
      exact .inl rfl
  | accepted settings =>
      have same := readable
      rw [← environment] at same
      cases hashable : node.hashable with
      | false =>
          have unhashable : other.hashable = false := stands.hashable.symm.trans hashable
          rw [compileCached_of_unhashable readable hashable,
            compileCached_of_unhashable same unhashable]
          exact .inl rfl
      | true =>
          rw [outcome_compileCached_of_empty empty readable hashable,
            outcome_compileCached_of_empty also same (stands.hashable.symm.trans hashable)]
          have settled (session : Session) (message : String) :
              Regime.settled.moves session
                ((Action.write compilerLogger Log.debug message).after session) := ⟨rfl, rfl⟩
          exact Action.Shadows.sameUnless
            (stands.compileWithin_shadows able delegating resolves objects Side.beyond_left)
            (stands.compileWithin_shadows able delegating resolves objects Side.beyond_right)
            (abreast.of_same ⟨⟨rfl, rfl⟩, rfl⟩ ⟨settled _ _, rfl⟩)
            (abreast.of_same ⟨settled _ _, rfl⟩ ⟨settled _ _, rfl⟩)

theorem Stands.issues_sameUnless (able : d.provider.Able)
    (delegating : catalogue d.provider.key = .delegating)
    (resolves : catalogue.ResolvesAbreast d start) (objects : start.registry.HoldsObjects)
    {node other : Descriptor} (stands : Stands d start node other) {first second : Session}
    (abreast : Session.Abreast d start first second) (empty : first.caches = [])
    (also : second.caches = []) (value : Value) :
    SameUnless ((node.compileWithin catalogue (expansionLimit - 1)).outcome first)
      ((other.issues catalogue value).outcome second)
      ((node.issues catalogue value).outcome first) := by
  have mapped (node : Descriptor) (session : Session) :
      (node.issues catalogue value).outcome session =
        ((node.compileCached catalogue).outcome session).map (Document.issues · value) := by
    rw [outcome_issues]
    cases (node.compileCached catalogue).outcome session <;> rfl
  rw [mapped, mapped]
  exact (stands.compileCached_sameUnless able delegating resolves objects abreast empty also).map _

end Descriptor

end Nodes

/-! ### Descriptions -/

section Descriptions

variable {catalogue : Catalogue} {d : Delegate} {start : Session} {side : Side}
  {given wrapped : Value}

theorem Shorthand.Refers.toDescriptor {c : ProviderClass} {registry : Registry}
    {description candidate : Value} {options all : Entries}
    (refers : Refers c registry description options candidate all) :
    description.toDescriptor = description.parse [] none := by
  cases refers with
  | here delegates => cases delegates <;> rfl
  | _ => rfl

theorem Shorthand.Wraps.toDescriptor {place : Place} {options : Entries}
    (wraps : Wraps d start place options given wrapped) :
    given.toDescriptor = given.parse [] none ∧ wrapped.toDescriptor = wrapped.parse [] none := by
  cases wraps with
  | here _ portable =>
      cases given with
      | descriptor node => exact portable.elim
      | _ => exact ⟨rfl, rfl⟩
  | inside refers also => exact ⟨refers.toDescriptor, also.toDescriptor⟩
  | _ => exact ⟨rfl, rfl⟩

namespace Value

theorem toDescriptor_wraps (able : d.provider.Able) (objects : start.registry.HoldsObjects)
    (wraps : Shorthand.Wraps d start .free [] given wrapped) :
    Agree (Session.Abreast d start) Eq (Descriptor.Stands d start) given.toDescriptor
      wrapped.toDescriptor := by
  rw [wraps.toDescriptor.1, wraps.toDescriptor.2]
  exact parse_wraps able objects wraps

theorem compileWithin_shadows (able : d.provider.Able)
    (delegating : catalogue d.provider.key = .delegating)
    (resolves : catalogue.ResolvesAbreast d start) (objects : start.registry.HoldsObjects)
    (wraps : Shorthand.Wraps d start .free [] given wrapped) {limit further : Nat}
    (beyond : side.Beyond limit further) :
    Action.Shadows side (Session.Abreast d start) Eq (given.compileWithin catalogue limit)
      (wrapped.compileWithin catalogue further) :=
  .bind (.of_agree (toDescriptor_wraps able objects wraps)) (fun _ _ stands =>
    stands.compileWithin_shadows able delegating resolves objects beyond)

theorem convertWithin_shadows (able : d.provider.Able)
    (delegating : catalogue d.provider.key = .delegating)
    (resolves : catalogue.ResolvesAbreast d start) (converts : catalogue.ConvertsAbreast d start)
    (plainly : catalogue.ResolvesPlainly) (objects : start.registry.HoldsObjects)
    (wraps : Shorthand.Wraps d start .free [] given wrapped) {limit further : Nat}
    (beyond : side.Beyond limit further) (value : Value) :
    Action.Shadows side (Session.Abreast d start) Eq (given.convertWithin catalogue limit value)
      (wrapped.convertWithin catalogue further value) :=
  .bind (.of_agree (toDescriptor_wraps able objects wraps)) (fun _ _ stands =>
    (stands.alikeWithin able delegating resolves converts plainly objects beyond).completeConversion
      value)

theorem issues_sameUnless (able : d.provider.Able)
    (delegating : catalogue d.provider.key = .delegating)
    (resolves : catalogue.ResolvesAbreast d start) (objects : start.registry.HoldsObjects)
    (wraps : Shorthand.Wraps d start .free [] given wrapped) (fresh : start.caches = [])
    (value : Value) :
    SameUnless ((given.compileWithin catalogue (expansionLimit - 1)).outcome start)
      ((wrapped.issues catalogue value).outcome start)
      ((given.issues catalogue value).outcome start) := by
  obtain ⟨outcomes, abreast⟩ := toDescriptor_wraps able objects wraps start start (.refl start)
  have kept (spec : Value) : (spec.toDescriptor.after start).caches = [] := by
    have reads : spec.toDescriptor.Within .uncached := spec.toDescriptor_within
    exact (reads.moves start).2.trans fresh
  rcases outcomes.of_eq with ⟨node, other, read, also, stands⟩ | ⟨error, failed, also⟩
  · rw [issues, issues, compileWithin, Action.outcome_bind_of_ok read,
      Action.outcome_bind_of_ok also, Action.outcome_bind_of_ok read]
    exact stands.issues_sameUnless able delegating resolves objects abreast (kept given)
      (kept wrapped) value
  · rw [issues, issues, Action.outcome_bind_of_error failed, Action.outcome_bind_of_error also]
    exact .inl rfl

/-- A description with a part delegated, at any depth, cannot be told from the description
itself, except by the one expansion that the reference takes: it has the same document, finds the
same issues if nothing is remembered, and converts values to the same results or fails alike,
the latter unless a provider fails to convert where it is to resolve. -/
theorem delegation_invisible (able : d.provider.Able)
    (delegating : catalogue d.provider.key = .delegating)
    (resolves : catalogue.ResolvesAbreast d start) (converts : catalogue.ConvertsAbreast d start)
    (objects : start.registry.HoldsObjects)
    (wraps : Shorthand.Wraps d start .free [] given wrapped) :
    SameUnless ((given.compileWithin catalogue (expansionLimit - 1)).outcome start)
        ((wrapped.compile catalogue).outcome start) ((given.compile catalogue).outcome start) ∧
      (start.caches = [] → ∀ value,
        SameUnless ((given.compileWithin catalogue (expansionLimit - 1)).outcome start)
          ((wrapped.issues catalogue value).outcome start)
          ((given.issues catalogue value).outcome start)) ∧
      (catalogue.ResolvesPlainly → ∀ value,
        SameUnless ((given.convertWithin catalogue (expansionLimit - 1) value).outcome start)
          ((wrapped.convert catalogue value).outcome start)
          ((given.convert catalogue value).outcome start)) := by
  refine ⟨?document, ?issues, ?conversion⟩
  case document =>
      exact Action.Shadows.sameUnless
        (compileWithin_shadows able delegating resolves objects wraps Side.beyond_left)
        (compileWithin_shadows able delegating resolves objects wraps Side.beyond_right)
        (.refl start) (.refl start)
  case issues =>
      exact issues_sameUnless able delegating resolves objects wraps
  case conversion =>
      intro plainly value
      exact Action.Shadows.sameUnless
        (convertWithin_shadows able delegating resolves converts plainly objects wraps
          Side.beyond_left value)
        (convertWithin_shadows able delegating resolves converts plainly objects wraps
          Side.beyond_right value)
        (.refl start) (.refl start)

end Value

end Descriptions

namespace Behaviour

theorem delegating_resolvesAbreast (d : Delegate) (start : Session) :
    Catalogue.ResolvesAbreast (fun _ => .delegating) d start := by
  intro key id options tolerated
  refine .pure ?_
  cases found : options.get? delegatedOption with
  | none => exact .inr trivial
  | some spec => exact tolerated.get? found

theorem delegating_resolvesPlainly : Catalogue.ResolvesPlainly (fun _ => .delegating) :=
  nofun

theorem delegating_convertsAbreast (d : Delegate) (start : Session) :
    Catalogue.ConvertsAbreast (fun _ => .delegating) d start :=
  fun _ _ _ _ _ resolved value tolerated alike => alike resolved value tolerated

/-- Counts how often each of its objects has been expanded, and converts to the count. -/
def counting : Behaviour where
  resolve id _ := modifyGet fun session =>
    let count : Value :=
      match session.instances.stateOf id with
      | .number (.int count) => .int (count + 1)
      | _ => .int 1
    (.text Kind.any.name, { session with instances := session.instances.remember id count })
  convertValue _ id _ _ := return (← get).instances.stateOf id

/-- Fails where it is to resolve, as if it converted. -/
def misresolving (failure : Failure) : Behaviour where
  resolve _ _ := throw (.conversion [failure] .null)
  convertValue _ _ _ value := return value

end Behaviour

theorem Value.delegation_invisible_of_nested :
    let catalogue : Catalogue := fun _ => .delegating
    let c : ProviderClass := { key := "Spec", typeName := "Spec" }
    let d : Delegate := ⟨c, .providerClass c⟩
    let spec : Value := .list [.text "integer"]
    let once := Shorthand.delegated d.how spec []
    let given : Value := .list [once]
    let wrapped : Value := .list [Shorthand.delegated d.how once []]
    let value : Value := .list [.list [.int 1], .int 2]
    d.provider.Able ∧ catalogue d.provider.key = .delegating ∧
      catalogue.ResolvesAbreast d {} ∧ catalogue.ConvertsAbreast d {} ∧
      catalogue.ResolvesPlainly ∧ ({} : Session).registry.HoldsObjects ∧
      Shorthand.Wraps d {} .free [] given wrapped ∧
      (wrapped.compile catalogue).outcome {} = (given.compile catalogue).outcome {} ∧
      (wrapped.issues catalogue value).outcome {} = (given.issues catalogue value).outcome {} ∧
      (wrapped.convert catalogue value).outcome {} =
        .error (.conversion [.shapeMismatch [.int 1] "array" (.int 2)] .null) := by
  intro catalogue c d spec once given wrapped value
  have able : d.provider.Able := ⟨rfl, rfl⟩
  have resolves := Behaviour.delegating_resolvesAbreast d {}
  have converts := Behaviour.delegating_convertsAbreast d {}
  have plainly := Behaviour.delegating_resolvesPlainly
  have objects : ({} : Session).registry.HoldsObjects :=
    fun _ among => absurd among List.not_mem_nil
  let parsed : Parsed := ⟨.array (.primitive (.integer {})) {}, false, none⟩
  have accepted : (Shorthand.parse {} spec []).outcome {} = .ok parsed := rfl
  have portable : spec.Portable ∧ once.Portable :=
    ⟨⟨trivial, trivial, trivial⟩, trivial, trivial, ⟨trivial, trivial, trivial⟩, trivial⟩
  have part : Shorthand.Wraps d {} .free [] spec once :=
    @Shorthand.Wraps.here d {} .free spec _ parsed false none ⟨trivial, trivial⟩ portable.1
      accepted .shared (by intro field; cases field)
  have nothing : Entries.Hold (({} : Session).Tolerates d) [] := .nil
  have wraps : Shorthand.Wraps d {} .free [] given wrapped :=
    .element (.inside_hole .shared [(.text Shorthand.typeKey, d.how)] [] rfl rfl nothing portable
      part rfl _)
  obtain ⟨document, issues, conversion⟩ :=
    Value.delegation_invisible able rfl resolves converts objects wraps
  have compiles : ¬ Exhausted
      ((given.compileWithin catalogue (expansionLimit - 1)).outcome {}) := not_exhausted_ok _
  have plain : (given.convert catalogue value).outcome {} =
      .error (.conversion [.shapeMismatch [.int 1] "array" (.int 2)] .null) := rfl
  have enough : ¬ Exhausted
      ((given.convertWithin catalogue (expansionLimit - 1) value).outcome {}) :=
    not_exhausted_conversion _ _
  exact ⟨able, rfl, resolves, converts, plainly, objects, wraps, document.same compiles,
    (issues rfl value).same compiles, ((conversion plainly value).same enough).trans plain⟩

/-- An object in the delegated part is copied with the options, so that each expansion starts
from what it remembered.  A failure of `resolve` keeps its place, unless another conversion is
around it. -/
theorem Value.delegation_tells :
    let spec : ProviderClass := { key := "Spec", typeName := "Spec" }
    let other : ProviderClass := { key := "Other", typeName := "Other" }
    let failure : Failure := ⟨[.text "zzz"], "no", .stated⟩
    let catalogue : Behaviour → Catalogue :=
      fun behaviour key => if key = "Spec" then .delegating else behaviour
    let start : Session :=
      { instances := { next := 1 }, registry := { entries := [("other", .provider other 0)] } }
    let object : Value := .map .plain [(.text Shorthand.typeKey, .provider other 0)]
    let wrap : Value → Value := fun part =>
      .list [Shorthand.delegated (.providerClass spec) part []]
    let value : Value := .list [.int 5, .int 6]
    ((Value.list [object]).convert (catalogue .counting) value).outcome start =
        .ok (.list [.int 1, .int 2]) ∧
      ((wrap object).convert (catalogue .counting) value).outcome start =
        .ok (.list [.int 1, .int 1]) ∧
      ((Value.list [.text "other"]).convert (catalogue (.misresolving failure)) value).outcome
        start = .error (.conversion [failure] .null) ∧
      ((wrap (.text "other")).convert (catalogue (.misresolving failure)) value).outcome start =
        .error (.conversion [failure.rebase [.int 0], failure.rebase [.int 1]] .null) := by
  intro spec other failure catalogue start object wrap value
  refine ⟨?once, ?copied, ?plain, ?wrapped⟩
  case once => rfl
  case copied =>
      -- The sessions are written out, so that the second expansion starts from a short one.
      let options : Entries :=
        [(.text Behaviour.delegatedOption,
          .map .readOnly [(.text Shorthand.typeKey, .provider other 2)])]
      let expand := expandWithin (catalogue .counting) expansionLimit
      let element : Descriptor := .ref (.provider spec 1) options
      let later (next : Nat) (memory : List (Nat × Value)) : Session :=
        { start with instances := ⟨[("Spec", 1)], next, memory⟩ }
      let each (value : Value) (position : Int) : Action Converted :=
        value.convertWith expand element [.int position] []
      have parsed : (wrap object).toDescriptor.run.run start =
          (.ok (.array element {}), later 3 [(2, .null)]) := rfl
      have first : (each (.int 5) 0).run.run (later 3 [(2, .null)]) =
          (.ok (.int 1, []), later 4 [(3, .int 1), (2, .null)]) := rfl
      have second : (each (.int 6) 1).run.run (later 4 [(3, .int 1), (2, .null)]) =
          (.ok (.int 1, []), later 5 [(4, .int 1), (3, .int 1), (2, .null)]) := rfl
      have last : (convertItems expand [.int 6] element [] 1 []).run.run
          (later 4 [(3, .int 1), (2, .null)]) =
            (.ok ([.int 1], []), later 5 [(4, .int 1), (3, .int 1), (2, .null)]) := by
        rw [convertItems]
        exact (Action.run_bind_of_run second).trans rfl
      have items : (convertItems expand [.int 5, .int 6] element [] 0 []).run.run
          (later 3 [(2, .null)]) =
            (.ok ([.int 1, .int 1], []), later 5 [(4, .int 1), (3, .int 1), (2, .null)]) := by
        rw [convertItems]
        exact (Action.run_bind_of_run first).trans ((Action.run_bind_of_run last).trans rfl)
      have whole : (value.convertWith expand (.array element {}) [] []).run.run
          (later 3 [(2, .null)]) =
            (.ok (.list [.int 1, .int 1], []),
              later 5 [(4, .int 1), (3, .int 1), (2, .null)]) :=
        (Action.run_bind_of_run items).trans rfl
      calc ((wrap object).convert (catalogue .counting) value).outcome start
          = ((Descriptor.array element {}).convert (catalogue .counting) value).outcome
              (later 3 [(2, .null)]) := congrArg Prod.fst (Action.run_bind_of_run parsed)
        _ = .ok (.list [.int 1, .int 1]) := congrArg Prod.fst (Action.run_bind_of_run whole)
  case plain => rfl
  case wrapped => rfl

end RecordSchema
