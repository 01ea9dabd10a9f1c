import RecordSchema.Proofs.Document.Conduct
import RecordSchema.Provider.Registration

namespace RecordSchema

/-! Sessions of calls around the compiler.  A call that fails keeps what it did before,
and the next call starts from there. -/

def Value.compile (catalogue : Catalogue) (spec : Value) : Action Document := do
  (← spec.toDescriptor).compile catalogue

def Value.compileCached (catalogue : Catalogue) (spec : Value) : Action Document := do
  (← spec.toDescriptor).compileCached catalogue

namespace Registry

/-- Puts what a step makes of the registry of the session in its place. -/
def change (step : Registry → Action Registry) : Action Unit := do
  let registry ← step (← get).registry
  modify (fun session => { session with registry := registry })

end Registry

/-- A cached compilation, an operation on the registry of the session, or the request to
forget every document. -/
inductive Call where
  | compileCached (spec : Value)
  | register (name : String) (candidate : Value) (replace : Bool)
  | unregister (name : String)
  | lookup (name : String)
  | clearRegistry
  | clearCaches

def Call.action (catalogue : Catalogue) : Call → Action Unit
  | .compileCached spec => do let _ ← spec.compileCached catalogue
  | .register name candidate replace =>
      Registry.change (fun registry => registry.register name candidate replace)
  | .unregister name => Registry.change (fun registry => registry.unregister name)
  | .lookup name => do let _ ← (← get).registry.lookup name
  | .clearRegistry => Registry.change (fun _ => return {})
  | .clearCaches => RecordSchema.clearCaches

def Session.run (catalogue : Catalogue) (session : Session) (calls : List Call) : Session :=
  calls.foldl (fun session call => (call.action catalogue).after session) session

theorem Session.run_append (catalogue : Catalogue) (session : Session)
    (calls later : List Call) :
    session.run catalogue (calls ++ later) = (session.run catalogue calls).run catalogue later :=
  List.foldl_append

def Regime.uncached : Regime where
  moves session later := later.environment = session.environment ∧ later.caches = session.caches
  allows _ := True
  stays _ := ⟨rfl, rfl⟩
  joins first second := ⟨second.1.trans first.1, second.2.trans first.2⟩
  makes _ _ := ⟨rfl, rfl⟩
  writes _ _ := ⟨rfl, rfl⟩
  definition _ := trivial
  fault _ := trivial

theorem Registry.change_within {step : Registry → Action Registry}
    (steps : ∀ registry, (step registry).Within .uncached) :
    (Registry.change step).Within .uncached :=
  .bind .get (fun session => .bind (steps session.registry)
    (fun _ => .modify (fun _ => ⟨rfl, rfl⟩)))

end RecordSchema
