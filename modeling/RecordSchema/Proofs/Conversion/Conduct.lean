import RecordSchema.Proofs.Conversion.Discipline
import RecordSchema.Proofs.Document.Remembered

namespace RecordSchema

/-! What conversions keep to.  The error of a provider's conversion is caught if it is a
conversion error, so it has to be allowed only otherwise. -/

theorem Value.convertWith_within {regime : Regime} {expand : Expansion}
    (expands : ∀ provider options value path found,
      (expand provider options value path found).Within regime)
    (value : Value) (node : Descriptor) (path : Location) (found : List Failure) :
    (value.convertWith expand node path found).Within regime :=
  have expanding : regime.discipline.Expanding expand := expands
  Discipline.convertWith value node (expanding.within node) path found

namespace Regime

def lax (regime : Regime) : Regime :=
  { regime with
    allows := fun _ => True
    definition := fun _ => trivial
    fault := fun _ => trivial }

end Regime

theorem Action.Within.lax {regime : Regime} {action : Action α}
    (within : action.Within regime) : action.Within regime.lax where
  moves := within.moves
  allows _ _ _ := trivial

/-- The providers keep to the changes of the regime when they convert, if the conversion
they are handed does. -/
def Catalogue.ConvertsWithin (catalogue : Catalogue) (regime : Regime) : Prop :=
  ∀ key id convert resolved value,
    (∀ node item, (convert node item : Action Value).Within regime.lax) →
      ((catalogue key).convertValue convert id resolved value).Within regime.lax

section Converting

variable {catalogue : Catalogue} {regime : Regime}

theorem completeConversion_within_lax {expand : Expansion}
    (expands : ∀ provider options value path found,
      (expand provider options value path found).Within regime)
    (node : Descriptor) (value : Value) :
    (completeConversion expand node value).Within regime.lax := by
  refine .bind (value.convertWith_within expands node [] []).lax (fun result => ?_)
  dsimp only
  split
  · exact .pure _
  · exact .bind (.write _ _ _) (fun _ => .throw trivial)

theorem expandWithin_within (resolves : catalogue.ResolvesWithin regime)
    (converts : catalogue.ConvertsWithin regime)
    (others : ∀ error, (∀ failures reason, error ≠ .conversion failures reason) →
      regime.allows error) (limit : Nat) (provider : Value) (options : Entries) (value : Value)
    (path : Location) (found : List Failure) :
    (expandWithin catalogue limit provider options value path found).Within regime := by
  induction limit generalizing provider options value path found with
  | zero => exact .fault .recursion
  | succ limit induction =>
      refine .bind (catalogue.resolve_within resolves provider options) (fun resolved => ?_)
      refine .tryCatch (fun session => ?_) (fun session error _ => ?_)
      · have converted : (catalogue.convertValue
            (completeConversion (expandWithin catalogue limit)) provider resolved value).Within
              regime.lax := by
          refine .bind (Value.conform_within provider) (fun conforming => ?_)
          cases conforming with
          | provider c id =>
              exact converts c.key id _ resolved value (completeConversion_within_lax induction)
          | _ => exact .fault .type
        exact (Action.Within.bind converted (fun _ => .pure (_, found))).moves session
      · cases error with
        | conversion failures reason => exact .pure _
        | _ =>
            refine .throw (others _ ?_)
            intro failures reason same
            exact nomatch same

theorem Descriptor.convert_within_lax (resolves : catalogue.ResolvesWithin regime)
    (converts : catalogue.ConvertsWithin regime)
    (others : ∀ error, (∀ failures reason, error ≠ .conversion failures reason) →
      regime.allows error) (node : Descriptor) (value : Value) :
    (node.convert catalogue value).Within regime.lax :=
  completeConversion_within_lax
    (expandWithin_within resolves converts others expansionLimit) node value

end Converting

/-! ### Calls of the library -/

section Calls

variable {catalogue : Catalogue}

/-- The providers themselves do to the caches no more than calls of the library do. -/
structure Catalogue.Steps (catalogue : Catalogue) : Prop where
  resolves : catalogue.ResolvesWithin (Session.stepping catalogue)
  converts : catalogue.ConvertsWithin (Session.stepping catalogue)

namespace Descriptor

theorem compileAndStore_steps (steps : catalogue.Steps) (capacity : Nat)
    (node : Descriptor) :
    (node.compileAndStore catalogue capacity).Within (Session.stepping catalogue) := by
  refine .bind (.write _ _ _) (fun _ => ⟨fun session => ?_, fun _ _ _ => trivial⟩)
  have compiles : Relation.ReflTransGen (Session.Step catalogue) session
      ((node.compile catalogue).after session) :=
    (node.compile_within steps.resolves).moves session
  rw [Action.after_bind]
  split
  · next document compiled => exact compiles.tail (.store compiled)
  · exact compiles

theorem compileCached_steps (steps : catalogue.Steps) (node : Descriptor) :
    (node.compileCached catalogue).Within (Session.stepping catalogue) where
  moves session := by
    unfold compileCached
    rw [Action.after_bind, Action.after_settings]
    split
    · split
      · exact .refl
      · rw [Action.after_bind_of_ok Action.outcome_get, Action.after_get]
        split
        · next found => exact .single (.ask found)
        · exact (compileAndStore_steps steps _ node).moves session
    · exact .refl
  allows _ _ _ := trivial

theorem issues_steps (steps : catalogue.Steps) (node : Descriptor) (value : Value) :
    (node.issues catalogue value).Within (Session.stepping catalogue) :=
  .bind (node.compileCached_steps steps) (fun _ => .pure _)

theorem validate_steps (steps : catalogue.Steps) (node : Descriptor) (value : Value) :
    (node.validate catalogue value).Within (Session.stepping catalogue) := by
  refine .bind (node.issues_steps steps value) (fun issues => ?_)
  split
  · exact .pure _
  · exact .bind (.write _ _ _) (fun _ => .throw trivial)

theorem convert_steps (steps : catalogue.Steps) (node : Descriptor) (value : Value) :
    (node.convert catalogue value).Within (Session.stepping catalogue) :=
  node.convert_within_lax steps.resolves steps.converts (fun _ _ => trivial) value

theorem fromValid_steps (steps : catalogue.Steps) (node : Descriptor) (value : Value) :
    (node.fromValid catalogue value).Within (Session.stepping catalogue) :=
  .bind (node.validate_steps steps value) (fun _ => node.convert_steps steps value)

end Descriptor

theorem clearCaches_steps : clearCaches.Within (Session.stepping catalogue) :=
  .modify (fun session => .single (.clear session))

/-- Reachable sessions are closed under the calls of the library, over providers that do no more
to the caches, whether the calls succeed or fail. -/
theorem Session.Reachable.after_calls {session : Session} (reached : session.Reachable catalogue)
    (steps : catalogue.Steps) (node : Descriptor) (value : Value) :
    ((node.compileCached catalogue).after session).Reachable catalogue ∧
      ((node.convert catalogue value).after session).Reachable catalogue ∧
      ((node.fromValid catalogue value).after session).Reachable catalogue ∧
      (RecordSchema.clearCaches.after session).Reachable catalogue := by
  have closed {α : Type} {action : Action α}
      (within : action.Within (Session.stepping catalogue)) :
      (action.after session).Reachable catalogue :=
    reached.step (within.moves session)
  exact ⟨closed (node.compileCached_steps steps), closed (node.convert_steps steps value),
    closed (node.fromValid_steps steps value), closed clearCaches_steps⟩

end Calls

end RecordSchema
