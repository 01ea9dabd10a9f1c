import RecordSchema.Proofs.Provider.Registry
import RecordSchema.Proofs.Session.Growing

namespace RecordSchema

/-! Registries over whole runs.  What a registry holds is settled by the calls on it that have
succeeded: for each name, the latest registration that has not been taken back. -/

namespace Registry

/-- A call on a registry, and whether it succeeded. -/
structure Event where
  call : Call
  done : Bool

/-- The calls of a run on one of its registries. -/
def events (which : Option Nat) (transcript : List (Command × Except Error Answer)) :
    List Event :=
  transcript.filterMap (fun entry =>
    match entry with
    | (.registry other call, answer) =>
        if other = which then some ⟨call, answer.isOk⟩ else none
    | _ => none)

theorem events_cons (which : Option Nat) (entry : Command × Except Error Answer)
    (rest : List (Command × Except Error Answer)) :
    events which (entry :: rest) = events which [entry] ++ events which rest := by
  rw [← List.singleton_append, events, List.filterMap_append, events, events]

theorem mem_events {catalogue : Catalogue} {world : World} {commands : List Command}
    {which : Option Nat} {event : Event}
    (among : event ∈ events which (world.transcript catalogue commands)) :
    ∃ reached, event.done =
      ((Command.registry which event.call).run catalogue reached).1.isOk := by
  induction commands generalizing world with
  | nil => exact absurd among List.not_mem_nil
  | cons command rest induction =>
      rw [World.transcript, events_cons] at among
      rcases List.mem_append.mp among with here | later
      · cases command with
        | registry other call =>
            by_cases same : other = which
            · subst same
              have single : event =
                  ⟨call, ((Command.registry other call).run catalogue world).1.isOk⟩ := by
                simpa [events] using here
              subst single
              exact ⟨world, rfl⟩
            · simp [events, same] at here
        | _ => simp [events] at here
      · exact induction later

inductive Call.Registers : Call → String → Value → Prop where
  | directly {name : String} {candidate : Value} {replace : Bool} (given : candidate ≠ .null) :
      Registers (.register name candidate replace) name candidate
  | decorating {name : String} {candidate : Value} {replace : Bool} (given : candidate ≠ .null) :
      Registers (.decorate name replace candidate) name candidate

def Call.Discards (call : Call) (name : String) : Prop :=
  call = .unregister name ∨ call = .clear

/-- The event settles what is held for the name. -/
def Event.Settles (event : Event) (name : String) : Prop :=
  event.done = true ∧ ((∃ candidate, event.call.Registers name candidate) ∨
    event.call.Discards name)

/-- The candidate of the latest registration of the name that succeeded, if the name has not
been unregistered since, nor the registry cleared. -/
def Held (events : List Event) (name : String) (candidate : Value) : Prop :=
  ∃ before call after, events = before ++ ⟨call, true⟩ :: after ∧
    call.Registers name candidate ∧ ∀ event ∈ after, ¬ event.Settles name

section Held

variable {events : List Event} {event : Event} {name : String} {candidate : Value}

theorem not_held_nil : ¬ Held [] name candidate := by
  rintro ⟨before, call, after, split, -⟩
  exact absurd split (by simp)

theorem Held.append (held : Held events name candidate) (unsettled : ¬ event.Settles name) :
    Held (events ++ [event]) name candidate := by
  obtain ⟨before, call, after, rfl, registers, since⟩ := held
  refine ⟨before, call, after ++ [event], by simp, registers, fun other among => ?_⟩
  rcases List.mem_append.mp among with earlier | last
  · exact since other earlier
  · rw [List.mem_singleton.mp last]
    exact unsettled

/-- What the last event leaves: what it registers, or else what was held before. -/
theorem Held.of_append (held : Held (events ++ [event]) name candidate) :
    event.done = true ∧ event.call.Registers name candidate ∨
      ¬ event.Settles name ∧ Held events name candidate := by
  obtain ⟨before, call, after, split, registers, since⟩ := held
  rcases List.eq_nil_or_concat after with rfl | ⟨others, last, rfl⟩
  · obtain ⟨rfl, same⟩ := List.append_inj' split rfl
    cases same
    exact .inl ⟨rfl, registers⟩
  · have regrouped : events ++ [event] = (before ++ ⟨call, true⟩ :: others) ++ [last] := by
      rw [split]
      simp
    obtain ⟨rfl, same⟩ := List.append_inj' regrouped rfl
    cases same
    exact .inr ⟨since event (by simp),
      before, call, others, rfl, registers, fun other among => since other (by simp [among])⟩

end Held

/-! ### What a registry holds -/

/-- The registry is a map that holds what is left of the registrations. -/
structure Tracks (registry : Registry) (instances : Instances) (events : List Event) : Prop where
  distinct : (registry.entries.map Prod.fst).Nodup
  held : ∀ name candidate, Held events name candidate →
    ∃ used, registry.get? name = some used ∧ candidate.ServedBy instances used
  known : ∀ name used, registry.get? name = some used → ∃ candidate, Held events name candidate
  conforming : ∀ entry ∈ registry.entries,
    entry.2.Conforms ∧ entry.2.conform = pure entry.2

namespace Tracks

variable {registry : Registry} {instances later : Instances} {events : List Event}

theorem empty (instances : Instances) : Tracks {} instances [] where
  distinct := List.nodup_nil
  held _ _ held := absurd held not_held_nil
  known _ _ found := absurd found (by simp [get?])
  conforming _ among := absurd among List.not_mem_nil

theorem grow (tracks : registry.Tracks instances events) (grown : instances.Grows later) :
    registry.Tracks later events where
  distinct := tracks.distinct
  held name candidate held := by
    obtain ⟨used, found, served⟩ := tracks.held name candidate held
    exact ⟨used, found, served.grow grown⟩
  known := tracks.known
  conforming := tracks.conforming

/-- An event that settles nothing goes with a registry that has not changed. -/
theorem idle (tracks : registry.Tracks instances events) {event : Event}
    (unsettled : ∀ name, ¬ event.Settles name) :
    registry.Tracks instances (events ++ [event]) where
  distinct := tracks.distinct
  held name candidate held := by
    rcases held.of_append with ⟨done, registers⟩ | ⟨-, earlier⟩
    · exact absurd ⟨done, .inl ⟨candidate, registers⟩⟩ (unsettled name)
    · exact tracks.held name candidate earlier
  known name used found := by
    obtain ⟨candidate, held⟩ := tracks.known name used found
    exact ⟨candidate, held.append (unsettled name)⟩
  conforming := tracks.conforming

theorem insert (tracks : registry.Tracks instances events) {call : Call} {name : String}
    {candidate used : Value} (registers : call.Registers name candidate)
    (served : candidate.ServedBy instances used) (conforms : used.Conforms)
    (itself : used.conform = pure used) :
    (registry.insert name used).Tracks instances (events ++ [⟨call, true⟩]) where
  distinct := by
    rw [Registry.insert, map_fst_put]
    split
    · exact tracks.distinct
    · next new =>
        rw [← List.concat_eq_append]
        exact tracks.distinct.concat new
  held other asked held := by
    rw [get?_insert]
    rcases held.of_append with ⟨-, again⟩ | ⟨unsettled, earlier⟩
    · have same : name = other ∧ candidate = asked := by
        cases registers <;> cases again <;> exact ⟨rfl, rfl⟩
      obtain ⟨rfl, rfl⟩ := same
      exact ⟨used, if_pos rfl, served⟩
    · have differs : name ≠ other := by
        rintro rfl
        exact unsettled ⟨rfl, .inl ⟨candidate, registers⟩⟩
      rw [if_neg differs]
      exact tracks.held other asked earlier
  known other kept found := by
    by_cases same : name = other
    · subst same
      exact ⟨candidate, events, call, [], rfl, registers, by simp⟩
    · rw [get?_insert, if_neg same] at found
      obtain ⟨asked, held⟩ := tracks.known other kept found
      refine ⟨asked, held.append ?_⟩
      rintro ⟨-, ⟨_, again⟩ | discards⟩
      · cases registers <;> cases again <;> exact same rfl
      · cases registers <;> rcases discards with unregisters | clears
        all_goals first | exact nomatch unregisters | exact nomatch clears
  conforming entry among := by
    rcases mem_put among with earlier | rfl
    · exact tracks.conforming entry earlier
    · exact ⟨conforms, itself⟩

theorem erase (tracks : registry.Tracks instances events) (name : String) :
    (registry.erase name).Tracks instances (events ++ [⟨.unregister name, true⟩]) where
  distinct := (List.filter_sublist.map _).nodup tracks.distinct
  held other candidate held := by
    rcases held.of_append with ⟨-, registers⟩ | ⟨unsettled, earlier⟩
    · cases registers
    · have differs : name ≠ other := by
        rintro rfl
        exact unsettled ⟨rfl, .inr (.inl rfl)⟩
      rw [get?_erase, if_neg differs]
      exact tracks.held other candidate earlier
  known other used found := by
    rw [get?_erase] at found
    split at found
    · cases found
    · next differs =>
        obtain ⟨candidate, held⟩ := tracks.known other used found
        refine ⟨candidate, held.append ?_⟩
        rintro ⟨-, ⟨_, registers⟩ | unregisters | clears⟩
        · cases registers
        · cases unregisters
          exact differs rfl
        · cases clears
  conforming entry among := tracks.conforming entry (List.mem_filter.mp among).1

theorem clear (instances : Instances) (events : List Event) :
    Tracks {} instances (events ++ [⟨.clear, true⟩]) where
  distinct := List.nodup_nil
  held name candidate held := by
    rcases held.of_append with ⟨-, registers⟩ | ⟨unsettled, -⟩
    · cases registers
    · exact absurd ⟨rfl, .inr (.inr rfl)⟩ unsettled
  known _ _ found := absurd found (by simp [get?])
  conforming _ among := absurd among List.not_mem_nil

end Tracks

end Registry

/-! ### Calls -/

namespace Registry

variable {registry later : Registry} {session : Session} {events : List Event} {call : Call}
  {reply : Reply} {name : String} {candidate : Value} {replace : Bool}

theorem enroll_of_given (given : candidate ≠ .null) :
    registry.enroll name candidate replace = registry.register name candidate replace := by
  cases candidate with
  | null => exact absurd rfl given
  | _ => rfl

/-- A registration that succeeds is kept track of. -/
theorem Tracks.enroll (answer : Reply) (tracks : registry.Tracks session.instances events)
    (registers : candidate ≠ .null → call.Registers name candidate)
    (nothing : candidate = .null → ∀ name, ¬ Event.Settles ⟨call, true⟩ name)
    (done : (do return (← registry.enroll name candidate replace, answer) :
      Action (Registry × Reply)).outcome session = .ok (later, reply)) :
    later.Tracks ((do return (← registry.enroll name candidate replace, answer) :
      Action (Registry × Reply)).after session).instances (events ++ [⟨call, true⟩]) := by
  obtain ⟨enrolled, given, finished⟩ := Action.outcome_bind_eq_ok.mp done
  cases finished
  rw [Action.after_bind_of_ok given, Action.after_pure]
  by_cases absent : candidate = .null
  · subst absent
    cases given
    exact tracks.idle (nothing rfl)
  · rw [enroll_of_given absent] at given ⊢
    obtain ⟨used, rfl, served, conforms, itself⟩ := register_ok given
    have grown := (Discipline.growing.register registry name candidate replace session).1
    exact (tracks.grow grown).insert (registers absent) served conforms itself

/-- A call that only looks is kept track of. -/
theorem Tracks.look {action : Action α} {answer : α → Reply}
    (tracks : registry.Tracks session.instances events)
    (looks : action.after session = session)
    (unsettled : ∀ name, ¬ Event.Settles ⟨call, true⟩ name)
    (done : (do return (registry, answer (← action)) :
      Action (Registry × Reply)).outcome session = .ok (later, reply)) :
    later.Tracks ((do return (registry, answer (← action)) :
      Action (Registry × Reply)).after session).instances (events ++ [⟨call, true⟩]) := by
  obtain ⟨value, given, finished⟩ := Action.outcome_bind_eq_ok.mp done
  cases finished
  rw [Action.after_bind_of_ok given, Action.after_pure, looks]
  exact tracks.idle unsettled

theorem Event.not_settles_look {call : Call} {done : Bool}
    (looks : (∃ name, call = .get name) ∨ call = .names ∨ (∃ name, call = .contains name) ∨
      call = .size) (name : String) : ¬ Event.Settles ⟨call, done⟩ name := by
  rintro ⟨-, ⟨_, registers⟩ | discards | clears⟩
  · cases registers <;> simp at looks
  · cases discards
    simp at looks
  · cases clears
    simp at looks

theorem Event.not_settles_null {call : Call} {done : Bool}
    (nothing : ∃ name replace, call = .register name .null replace ∨
      call = .decorate name replace .null) (name : String) :
    ¬ Event.Settles ⟨call, done⟩ name := by
  rintro ⟨-, ⟨_, registers⟩ | discards | clears⟩
  · cases registers with
    | directly given => simp_all
    | decorating given => simp_all
  · cases discards
    simp at nothing
  · cases clears
    simp at nothing

theorem Call.tracks_ok (tracks : registry.Tracks session.instances events)
    (done : (call.action registry).outcome session = .ok (later, reply)) :
    later.Tracks ((call.action registry).after session).instances
      (events ++ [⟨call, true⟩]) := by
  cases call with
  | register name candidate replace =>
      exact tracks.enroll _ .directly
        (fun absent => Event.not_settles_null ⟨name, replace, .inl (absent ▸ rfl)⟩) done
  | decorate name replace candidate =>
      exact tracks.enroll _ .decorating
        (fun absent => Event.not_settles_null ⟨name, replace, .inr (absent ▸ rfl)⟩) done
  | unregister name =>
      obtain ⟨erased, given, finished⟩ := Action.outcome_bind_eq_ok.mp done
      cases finished
      rw [action, Action.after_bind_of_ok given, Action.after_pure]
      by_cases present : registry.contains name = true
      · rw [Registry.unregister, if_pos present] at given ⊢
        cases given
        exact tracks.erase name
      · rw [Registry.unregister, if_neg present] at given
        exact nomatch given
  | clear =>
      cases done
      exact .clear _ _
  | get name =>
      refine tracks.look ?_ (Event.not_settles_look (.inl ⟨name, rfl⟩)) done
      rw [lookup]
      split <;> rfl
  | names =>
      cases done
      exact tracks.idle (Event.not_settles_look (.inr (.inl rfl)))
  | contains name =>
      cases done
      exact tracks.idle (Event.not_settles_look (.inr (.inr (.inl ⟨name, rfl⟩))))
  | size =>
      cases done
      exact tracks.idle (Event.not_settles_look (.inr (.inr (.inr rfl))))

end Registry

/-! ### Runs -/

namespace World

variable {catalogue : Catalogue} {world : World} {which : Option Nat} {command : Command}
  {commands : List Command} {events : List Registry.Event}

/-- One command keeps the track of every registry. -/
theorem tracks_command (providers : catalogue.Growing [command])
    (tracks : (world.registry which).Tracks world.session.instances events) :
    ((command.run catalogue world).2.registry which).Tracks
      (command.run catalogue world).2.session.instances
      (events ++ Registry.events which [(command, (command.run catalogue world).1)]) := by
  by_cases here : ∃ call, command = .registry which call
  · obtain ⟨call, rfl⟩ := here
    cases given : (call.action (world.registry which)).outcome world.session with
    | ok result =>
        obtain ⟨later, reply⟩ := result
        have kept := Registry.Call.tracks_ok tracks given
        simpa [Command.run, given, Registry.events, Except.isOk, Except.toBool] using kept
    | error error =>
        have grown := call.keeps Discipline.growing.toDiscipline (world.registry which)
          world.session
        have failed (name : String) : ¬ Registry.Event.Settles ⟨call, false⟩ name :=
          fun settles => Bool.false_ne_true settles.1
        have kept := (tracks.grow grown.1).idle failed
        simpa [Command.run, given, Registry.events, Except.isOk, Except.toBool,
          registry_perform grown.2] using kept
  · have elsewhere (call : Registry.Call) : command ≠ .registry which call :=
      fun same => here ⟨call, same⟩
    have silent : Registry.events which [(command, (command.run catalogue world).1)] = [] := by
      cases command with
      | registry other call =>
          have differs : other ≠ which := fun same => elsewhere call (same ▸ rfl)
          simp [Registry.events, differs]
      | _ => rfl
    rw [Command.run_registry providers elsewhere, silent, List.append_nil]
    exact tracks.grow (Command.run_grows providers)

theorem tracks_run (providers : catalogue.Growing commands)
    (tracks : (world.registry which).Tracks world.session.instances events) :
    ((world.run catalogue commands).registry which).Tracks
      (world.run catalogue commands).session.instances
      (events ++ Registry.events which (world.transcript catalogue commands)) := by
  induction commands generalizing world events with
  | nil => simpa [transcript, Registry.events] using tracks
  | cons command rest induction =>
      have here : catalogue.Growing [command] :=
        providers.of_sublist (List.singleton_sublist.mpr List.mem_cons_self)
      have later := induction providers.tail (tracks_command here tracks)
      rwa [run_cons, transcript, Registry.events_cons, ← List.append_assoc]

/-- A registry that was empty at first tracks the calls of the run. -/
theorem tracks_of_empty (providers : catalogue.Growing commands)
    (empty : world.registry which = {}) :
    ((world.run catalogue commands).registry which).Tracks
      (world.run catalogue commands).session.instances
      (Registry.events which (world.transcript catalogue commands)) := by
  have start : (world.registry which).Tracks world.session.instances [] := by
    rw [empty]
    exact .empty _
  simpa using tracks_run providers start

end World

/-! ### A registry is a map -/

namespace Registry

variable {registry : Registry} {session : Session} {events : List Event}

theorem Tracks.contains_iff (tracks : registry.Tracks session.instances events) {name : String} :
    registry.contains name = true ↔ ∃ candidate, Held events name candidate := by
  rw [Registry.contains_iff]
  constructor
  · rintro ⟨used, found⟩
    exact tracks.known name used found
  · rintro ⟨candidate, held⟩
    obtain ⟨used, found, -⟩ := tracks.held name candidate held
    exact ⟨used, found⟩

end Registry

namespace Command

variable {catalogue : Catalogue} {world : World}

end Command

namespace Registry

end Registry

end RecordSchema
