import RecordSchema.Proofs.Descriptor.Conduct
import RecordSchema.Proofs.Document.Discipline

namespace RecordSchema

/-! Compilation keeps to the regime that the providers keep to. -/

variable {regime : Regime} {catalogue : Catalogue}

/-- The providers keep to the regime when they resolve. -/
def Catalogue.ResolvesWithin (catalogue : Catalogue) (regime : Regime) : Prop :=
  ∀ key id options, ((catalogue key).resolve id options).Within regime

theorem Catalogue.resolve_within (resolves : catalogue.ResolvesWithin regime)
    (provider : Value) (options : Entries) :
    (catalogue.resolve provider options).Within regime :=
  have resolving : regime.discipline.Resolving catalogue := resolves
  resolving.resolve provider options

theorem Descriptor.compileWithin_within (resolves : catalogue.ResolvesWithin regime)
    (limit : Nat) (node : Descriptor) : (node.compileWithin catalogue limit).Within regime :=
  have resolving : regime.discipline.Resolving catalogue := resolves
  resolving.compileWithin limit node

theorem Descriptor.compile_within (resolves : catalogue.ResolvesWithin regime)
    (node : Descriptor) : (node.compile catalogue).Within regime :=
  node.compileWithin_within resolves expansionLimit

end RecordSchema
