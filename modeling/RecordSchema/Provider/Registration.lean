import RecordSchema.Provider.Conformance

namespace RecordSchema

/-!
Registering providers under names.  A candidate is checked before it is registered, and
a registration that fails leaves the registry as it was.
-/

namespace Registry

def registryLogger : String := "simpleschema.extension"

/-- The registry with a provider under a name.  A name that is taken is given to another
provider only on request. -/
def register (registry : Registry) (name : String) (candidate : Value) (replace : Bool) :
    Action Registry := do
  let provider ← candidate.conform
  if registry.contains name && !replace then Action.fail (.alreadyRegistered name)
  else
    if registry.contains name then
      Action.write registryLogger Log.warning s!"Replacing schema provider {quoted name}"
    Action.write registryLogger Log.info
      s!"Registered schema provider {quoted name} ({provider.providerName})"
    return registry.insert name provider

def unregister (registry : Registry) (name : String) : Action Registry :=
  if registry.contains name then pure (registry.erase name)
  else Action.fail (.notRegistered name)

def lookup (registry : Registry) (name : String) : Action Value :=
  match registry.get? name with
  | some provider => pure provider
  | none => Action.fail (.unknownName name registry.names)

end Registry

end RecordSchema
