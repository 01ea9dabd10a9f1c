import RecordSchema.Proofs.Document.Depth
import RecordSchema.Proofs.Document.Description
import RecordSchema.Proofs.Document.Likeness
import RecordSchema.Provider.Delegation

namespace RecordSchema

/-! A reference that is resolved again.  Over providers whose answers depend on their options
only, it compiles to the same document as before, as long as the registry and the settings
stay. -/

/-- Any change but one of the registry or the settings, and any error. -/
def Regime.settled : Regime where
  moves session later :=
    later.environment = session.environment ∧ later.registry = session.registry
  allows _ := True
  stays _ := ⟨rfl, rfl⟩
  joins first second := ⟨second.1.trans first.1, second.2.trans first.2⟩
  makes _ _ := ⟨rfl, rfl⟩
  writes _ _ := ⟨rfl, rfl⟩
  definition _ := trivial
  fault _ := trivial

/-- What providers resolve to depends on the options only, up to the objects in it. -/
def Catalogue.ResolvesByOptions (catalogue : Catalogue) : Prop :=
  ∀ key id other given options, Likeness.upToObjects.entries given options →
    ∀ session later, Outcomes (fun _ _ => True) Likeness.upToObjects.values
      (((catalogue key).resolve id given).outcome session)
      (((catalogue key).resolve other options).outcome later)

/-- A document that a reference was compiled to while the registry and the settings were
those of the session. -/
def Catalogue.Compiles (catalogue : Catalogue) (session : Session) (limit : Nat)
    (provider : Value) (options : Entries) (document : Document) : Prop :=
  ∃ before resolved later, Regime.settled.moves session before ∧
    Regime.settled.moves session later ∧
    (catalogue.resolve provider options).outcome before = .ok resolved ∧
    (resolved.compileWithin catalogue limit).outcome later = .ok document

/-- The document of a reference, compiled as part of a larger one, accepts the value. -/
def Catalogue.Vouches (catalogue : Catalogue) (session : Session) (provider : Value)
    (options : Entries) (value : Value) : Prop :=
  ∃ limit document, expansionLimit = limit + 1 ∧
    catalogue.Compiles session limit provider options document ∧ document.Accepts value

section Twice

variable {catalogue : Catalogue} {session : Session}

theorem Likeness.upToObjects_sessions {first second : Session}
    (left : Regime.settled.moves session first) (right : Regime.settled.moves session second) :
    Likeness.upToObjects.sessions first second :=
  ⟨left.1.trans right.1.symm, left.2.trans right.2.symm, trivial⟩

theorem Catalogue.ResolvesByOptions.resolves (answers : catalogue.ResolvesByOptions)
    (settled : catalogue.ResolvesWithin .settled) :
    Likeness.upToObjects.Resolves catalogue := by
  intro key id other given options _ same first second like
  have left := (settled key id given).moves first
  have right := (settled key other options).moves second
  refine ⟨answers key id other given options same first second, ?_, ?_, trivial⟩
  · exact left.1.trans (like.1.trans right.1.symm)
  · exact left.2.trans (like.2.1.trans right.2.symm)

theorem Descriptor.compileWithin_describes (settled : catalogue.ResolvesWithin .settled)
    (limit : Nat) (node : Descriptor) :
    (node.compileWithin catalogue (limit + 1)).Yields (Regime.settled.moves session)
      (node.DescribedBy (catalogue.Compiles session limit)) := by
  refine node.compileWith_describes (fun provider options => ⟨?_, ?_⟩)
  · intro now kept
    refine Regime.settled.joins kept (Action.Within.moves ?_ now)
    exact .bind (catalogue.resolve_within settled provider options) (fun resolved =>
      .bind (.write _ _ _) (fun _ => resolved.compileWithin_within settled limit))
  · intro now document kept result
    obtain ⟨resolved, first, rest⟩ := Action.outcome_bind_eq_ok.mp result
    obtain ⟨_, _, last⟩ := Action.outcome_bind_eq_ok.mp rest
    have resolves := (catalogue.resolve_within settled provider options).moves now
    refine ⟨now, resolved, _, kept, ?_, first, last⟩
    exact Regime.settled.joins kept resolves

/-- A reference that is resolved again compiles to the same document again. -/
theorem Catalogue.Compiles.again (answers : catalogue.ResolvesByOptions)
    (settled : catalogue.ResolvesWithin .settled) {limit : Nat} {provider : Value}
    {options : Entries} {document : Document}
    (compiles : catalogue.Compiles session limit provider options document) {now : Session}
    (kept : Regime.settled.moves session now) {resolved : Descriptor}
    (given : (catalogue.resolve provider options).outcome now = .ok resolved) :
    (resolved.compileWithin catalogue limit).outcome
      ((catalogue.resolve provider options).after now) = .ok document := by
  obtain ⟨before, first, later, keptBefore, keptLater, earlier, compiled⟩ := compiles
  have resolves := answers.resolves settled
  have keptAfter : Regime.settled.moves session ((catalogue.resolve provider options).after now) :=
    Regime.settled.joins kept ((catalogue.resolve_within settled provider options).moves now)
  have resolvesAlike : Likeness.upToObjects.Acts Likeness.upToObjects.nodes
      (catalogue.resolve provider options) (catalogue.resolve provider options) :=
    Likeness.upToObjects.resolve_acts resolves rfl rfl
  obtain ⟨other, same, nodes⟩ :=
    resolvesAlike.exists_ok (Likeness.upToObjects_sessions keptBefore kept) earlier
  rw [given] at same
  cases same
  have compilesAlike := Likeness.upToObjects.compileWithin_acts resolves limit nodes
  obtain ⟨_, result, rfl⟩ :=
    compilesAlike.exists_ok (Likeness.upToObjects_sessions keptLater keptAfter) compiled
  exact result

end Twice

theorem Behaviour.delegating_resolvesByOptions :
    Catalogue.ResolvesByOptions (fun _ => Behaviour.delegating) := by
  intro key id other given options same session later
  have looked : (given.get? Behaviour.delegatedOption).map (Value.rename (fun _ => 0)) =
      (options.get? Behaviour.delegatedOption).map (Value.rename (fun _ => 0)) := by
    rw [← Entries.get?_rename, ← Entries.get?_rename]
    exact congrArg (Entries.get? · Behaviour.delegatedOption) same
  refine .ok ?_
  cases left : given.get? Behaviour.delegatedOption with
  | none =>
      cases right : options.get? Behaviour.delegatedOption with
      | none => rfl
      | some spec => simp [left, right] at looked
  | some spec =>
      cases right : options.get? Behaviour.delegatedOption with
      | none => simp [left, right] at looked
      | some further =>
          rw [left, right] at looked
          exact Option.some.inj looked

end RecordSchema
