import RecordSchema.Proofs.Session.World

namespace RecordSchema

/-! What a run leaves of the objects and the registries.  Whatever a command does, classes keep the
objects that they share, and a registry is changed by the calls on it alone. -/

namespace Discipline

/-- Objects are added, and the registry of the session stays as it is. -/
def growing : Calling where
  holds action := ∀ session, session.instances.Grows (action.after session).instances ∧
    (action.after session).registry = session.registry
  value _ _ := ⟨.refl _, rfl⟩
  fail _ _ := ⟨.refl _, rfl⟩
  fault _ _ := ⟨.refl _, rfl⟩
  bind first second session := by
    rw [Action.after_bind]
    have grown := first session
    split
    · next value _ =>
        have more := second value
        exact ⟨grown.1.trans (more _).1, (more _).2.trans grown.2⟩
    · exact grown
  policy _ := ⟨.refl _, rfl⟩
  names rest session := by
    rw [Action.after_bind_of_ok Action.outcome_get]
    exact rest session.registry session
  share c session := ⟨.share session.instances c, rfl⟩
  copying allocates session := by
    rw [Action.after_copying]
    exact ⟨allocates.grows _, rfl⟩
  write _ _ _ _ := ⟨.refl _, rfl⟩
  throw _ _ := ⟨.refl _, rfl⟩
  handle first second session := by
    rw [Action.after_tryCatch]
    have grown := first session
    split
    · exact grown
    · next error _ =>
        have more := second error
        exact ⟨grown.1.trans (more _).1, (more _).2.trans grown.2⟩
  settings session := by
    rw [Action.after_settings]
    exact ⟨.refl _, rfl⟩
  look capacity _ rest session := by
    rw [Action.after_bind_of_ok Action.outcome_get]
    exact rest (session.cache capacity) session
  store _ _ _ := ⟨.refl _, rfl⟩
  forget _ := ⟨.refl _, rfl⟩

end Discipline

/-- If the commands let providers work at all, these take no object from the class that shares
it and leave the registry alone. -/
def Catalogue.Growing (catalogue : Catalogue) (commands : List Command) : Prop :=
  (∃ command ∈ commands, command.runsProviders = true) → Discipline.growing.Keeps catalogue

namespace Catalogue.Growing

variable {catalogue : Catalogue} {command : Command} {commands : List Command}

theorem tail (providers : catalogue.Growing (command :: commands)) :
    catalogue.Growing commands :=
  fun ⟨other, among, runs⟩ => providers ⟨other, List.mem_cons_of_mem _ among, runs⟩

theorem of_sublist {others : List Command} (providers : catalogue.Growing commands)
    (sublist : others.Sublist commands) : catalogue.Growing others :=
  fun ⟨other, among, runs⟩ => providers ⟨other, sublist.subset among, runs⟩

end Catalogue.Growing

namespace World

variable {catalogue : Catalogue} {world : World}

theorem registry_perform {action : Action α}
    (grown : (action.after world.session).registry = world.session.registry)
    (which : Option Nat) : (world.perform action).registry which = world.registry which := by
  cases which with
  | none => exact grown
  | some which => rfl

@[simp] theorem instances_place (registry : Registry) (which : Option Nat) :
    (world.place registry which).session.instances = world.session.instances := by
  cases which <;> rfl

end World

namespace Command

variable {catalogue : Catalogue} {world : World} {command : Command}

/-- One command adds objects at most. -/
theorem run_grows (providers : catalogue.Growing [command]) :
    world.session.instances.Grows (command.run catalogue world).2.session.instances := by
  cases command with
  | task work =>
      have keeps := work.keeps Discipline.growing
        (fun runs => providers ⟨_, List.mem_singleton_self _, runs⟩) world.registries
      exact (keeps world.session).1
  | registry which call =>
      have grown := (call.keeps Discipline.growing.toDiscipline (world.registry which)
        world.session).1
      simp only [run]
      split
      · rw [World.instances_place]
        exact grown
      · exact grown
  | setup stamp request => exact .refl _

/-- A registry stays as it is unless the command is a call on it. -/
theorem run_registry (providers : catalogue.Growing [command]) {which : Option Nat}
    (elsewhere : ∀ call, command ≠ .registry which call) :
    (command.run catalogue world).2.registry which = world.registry which := by
  cases command with
  | task work =>
      have keeps := work.keeps Discipline.growing
        (fun runs => providers ⟨_, List.mem_singleton_self _, runs⟩) world.registries
      exact World.registry_perform (keeps world.session).2 which
  | registry other call =>
      have differs : which ≠ other := fun same => elsewhere call (same ▸ rfl)
      have kept := World.registry_perform
        (call.keeps Discipline.growing.toDiscipline (world.registry other) world.session).2 which
      simp only [run]
      split
      · rw [World.registry_place_of_ne _ _ differs]
        exact kept
      · exact kept
  | setup stamp request => cases which <;> rfl

end Command

/-- A run adds objects at most. -/
theorem World.run_grows {catalogue : Catalogue} {commands : List Command}
    (providers : catalogue.Growing commands) (world : World) :
    world.session.instances.Grows (world.run catalogue commands).session.instances := by
  induction commands generalizing world with
  | nil => exact .refl _
  | cons command rest induction =>
      have here : catalogue.Growing [command] :=
        providers.of_sublist (List.singleton_sublist.mpr List.mem_cons_self)
      exact (Command.run_grows here).trans (induction providers.tail _)

end RecordSchema
