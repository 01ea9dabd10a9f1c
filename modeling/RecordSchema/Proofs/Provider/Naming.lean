import RecordSchema.Proofs.Descriptor.Exchange
import RecordSchema.Proofs.Provider.Sharing

namespace RecordSchema

/-! Names of providers in descriptions.  A name that a registry holds stands for its provider
wherever it occurs as a description, unless it is the name of a kind, or the provider is a record,
which describes a mapping where it occurs itself. -/

namespace Shorthand

end Shorthand

namespace Registry

/-- What a registry holds for a name conforms. -/
theorem Tracks.conforms {registry : Registry} {instances : Instances} {events : List Event}
    (tracks : registry.Tracks instances events) {name : String} {provider : Value}
    (found : registry.get? name = some provider) : provider.Conforms := by
  obtain ⟨entry, first, rfl⟩ := Option.map_eq_some_iff.mp found
  exact (tracks.conforming entry (List.mem_of_find?_eq_some first)).1

end Registry

namespace Registry

end Registry

end RecordSchema
