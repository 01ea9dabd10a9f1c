import RecordSchema.Document.Compilation
import RecordSchema.Proofs.Descriptor.Discipline

namespace RecordSchema

/-! Compiling keeps to every discipline that the providers keep to. -/

namespace Discipline

variable (discipline : Discipline) {catalogue : Catalogue}

/-- The providers keep to the discipline when they resolve. -/
def Resolving (catalogue : Catalogue) : Prop :=
  ∀ key id options, discipline.holds ((catalogue key).resolve id options)

section Resolving

variable {discipline} (resolving : discipline.Resolving catalogue)
include resolving

theorem Resolving.resolve (provider : Value) (options : Entries) :
    discipline.holds (catalogue.resolve provider options) := by
  refine discipline.bind (discipline.reading.conform provider) (fun conforming => ?_)
  refine discipline.bind (discipline.copying options.delivery_allocates) (fun delivered => ?_)
  cases conforming with
  | provider c id =>
      exact discipline.bind (resolving c.key id delivered)
        (fun spec => discipline.parse spec [] none)
  | _ => exact discipline.fault .type

omit resolving in
mutual
theorem compileWith {expand : Value → Entries → Action Document}
    (expands : ∀ provider options, discipline.holds (expand provider options)) :
    (node : Descriptor) → discipline.holds (node.compileWith expand)
  | .primitive _ => discipline.value _
  | .mapping fields _ =>
      discipline.bind (compileFieldsWith expands fields) (fun _ => discipline.value _)
  | .array element _ =>
      discipline.bind (compileWith expands element) (fun _ => discipline.value _)
  | .ref provider options => expands provider options
  | .foreign _ => discipline.fail _
termination_by structural node => node

theorem compileFieldsWith {expand : Value → Entries → Action Document}
    (expands : ∀ provider options, discipline.holds (expand provider options)) :
    (fields : List Field) → discipline.holds (RecordSchema.compileFieldsWith expand fields)
  | [] => discipline.value _
  | ⟨_, descriptor, _, _⟩ :: rest =>
      discipline.bind (compileWith expands descriptor) (fun _ =>
        discipline.bind (compileFieldsWith expands rest) (fun _ => discipline.value _))
termination_by structural fields => fields
end

theorem Resolving.compileWithin (limit : Nat) (node : Descriptor) :
    discipline.holds (node.compileWithin catalogue limit) := by
  induction limit generalizing node with
  | zero => exact compileWith (fun _ _ => discipline.fault .recursion) node
  | succ limit induction =>
      refine compileWith (fun provider options => ?_) node
      exact discipline.bind (resolving.resolve provider options) (fun resolved =>
        discipline.bind (discipline.write _ _ _) (fun _ => induction resolved))

theorem Resolving.compile (node : Descriptor) : discipline.holds (node.compile catalogue) :=
  resolving.compileWithin expansionLimit node

end Resolving

end Discipline

end RecordSchema
