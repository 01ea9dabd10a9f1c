import RecordSchema.Proofs.Descriptor.Discipline

namespace RecordSchema

/-! Reading a description keeps to every regime: it makes objects and complains, and does
nothing else.  Registering does no more. -/

variable {regime : Regime}

theorem Value.conform_within (candidate : Value) : candidate.conform.Within regime :=
  regime.discipline.reading.conform candidate

theorem Shorthand.listed_within (kind : MapKind) (entries : Entries) :
    (listed kind entries).Within regime :=
  regime.discipline.reading.listed kind entries

theorem Shorthand.parse_within (registry : Registry) (spec : Value) (options : Entries) :
    (parse registry spec options).Within regime :=
  regime.discipline.reading.shorthand registry spec options

theorem Shorthand.parseFields_within (registry : Registry) (entries : Entries) :
    (parseFields registry entries).Within regime :=
  regime.discipline.reading.shorthandFields registry entries

theorem Value.parse_within (spec : Value) (options : Entries) (registry : Option Registry) :
    (spec.parse options registry).Within regime :=
  regime.discipline.parse spec options registry

theorem Value.toDescriptor_within (spec : Value) : spec.toDescriptor.Within regime :=
  regime.discipline.toDescriptor spec

namespace Registry

theorem register_within (registry : Registry) (name : String) (candidate : Value)
    (replace : Bool) : (registry.register name candidate replace).Within regime :=
  regime.discipline.register registry name candidate replace

theorem unregister_within (registry : Registry) (name : String) :
    (registry.unregister name).Within regime :=
  regime.discipline.unregister registry name

theorem lookup_within (registry : Registry) (name : String) :
    (registry.lookup name).Within regime :=
  regime.discipline.lookup registry name

end Registry

end RecordSchema
