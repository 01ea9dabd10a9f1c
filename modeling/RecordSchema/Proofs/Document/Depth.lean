import RecordSchema.Document.Compilation
import RecordSchema.Proofs.Session.Outcome

namespace RecordSchema

/-! How deep references may be expanded within one another.  A document that few levels
suffice for comes out of more levels just as well. -/

/-- Whatever the first action gives the second one gives too, and leaves the same behind. -/
def Action.Extends (action other : Action α) : Prop :=
  ∀ session value, action.outcome session = .ok value →
    other.outcome session = .ok value ∧ other.after session = action.after session

namespace Action.Extends

protected theorem refl (action : Action α) : action.Extends action :=
  fun _ _ given => ⟨given, rfl⟩

protected theorem fault (fault : Fault) (other : Action α) :
    (Action.fault fault).Extends other :=
  fun _ _ given => nomatch given

protected theorem bind {action other : Action α} {next further : α → Action β}
    (first : action.Extends other) (second : ∀ value, (next value).Extends (further value)) :
    (action >>= next).Extends (other >>= further) := by
  intro session result given
  obtain ⟨value, before, last⟩ := outcome_bind_eq_ok.mp given
  obtain ⟨same, left⟩ := first session value before
  obtain ⟨final, behind⟩ := second value _ result last
  rw [outcome_bind_of_ok same, after_bind_of_ok same, left, after_bind_of_ok before]
  exact ⟨final, behind⟩

end Action.Extends

variable {expand further : Value → Entries → Action Document}

mutual
theorem Descriptor.compileWith_extends
    (expands : ∀ provider options, (expand provider options).Extends (further provider options)) :
    (node : Descriptor) → (node.compileWith expand).Extends (node.compileWith further)
  | .primitive _ => .refl _
  | .mapping fields _ => .bind (compileFieldsWith_extends expands fields) (fun _ => .refl _)
  | .array element _ => .bind (element.compileWith_extends expands) (fun _ => .refl _)
  | .ref provider options => expands provider options
  | .foreign _ => .refl _
termination_by structural node => node

theorem compileFieldsWith_extends
    (expands : ∀ provider options, (expand provider options).Extends (further provider options)) :
    (fields : List Field) →
      (compileFieldsWith expand fields).Extends (compileFieldsWith further fields)
  | [] => .refl _
  | ⟨_, descriptor, _, _⟩ :: rest =>
      .bind (descriptor.compileWith_extends expands)
        (fun _ => .bind (compileFieldsWith_extends expands rest) (fun _ => .refl _))
termination_by structural fields => fields
end

theorem Descriptor.compileWithin_extends (catalogue : Catalogue) (limit : Nat)
    (node : Descriptor) :
    (node.compileWithin catalogue limit).Extends (node.compileWithin catalogue (limit + 1)) := by
  induction limit generalizing node with
  | zero => exact node.compileWith_extends (fun _ _ => .fault .recursion _)
  | succ limit induction =>
      apply node.compileWith_extends
      intro provider options
      refine .bind (.refl _) (fun resolved => ?_)
      exact .bind (.refl _) (fun _ => induction resolved)

end RecordSchema
