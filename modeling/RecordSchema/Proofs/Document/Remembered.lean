import Mathlib.Logic.Relation
import RecordSchema.Proofs.Document.Conduct

namespace RecordSchema

/-! What the caches of compiled documents hold.  Looking a node up changes the order of the
entries only, so every entry goes back to a compilation of its own node. -/

namespace Cache

theorem split?_eq_some {asked : Descriptor} {entries before after : List (Descriptor × Document)}
    {entry : Descriptor × Document} (found : split? entries asked = some (before, entry, after)) :
    entries = before ++ entry :: after ∧ answers entry.1 asked = true := by
  induction entries generalizing before with
  | nil => exact nomatch found
  | cons first rest induction =>
      rw [split?] at found
      split at found
      · next answered =>
          cases found
          exact ⟨rfl, answered⟩
      · obtain ⟨⟨inner, chosen, others⟩, deeper, equal⟩ := Option.map_eq_some_iff.mp found
        cases equal
        obtain ⟨rfl, answered⟩ := induction deeper
        exact ⟨rfl, answered⟩

theorem lookup?_eq_some {cache later : Cache} {asked : Descriptor} {document : Document}
    (found : cache.lookup? asked = some (document, later)) :
    ∃ stored, answers stored asked = true ∧ (stored, document) ∈ cache.entries ∧
      ∀ entry, entry ∈ later.entries ↔ entry ∈ cache.entries := by
  obtain ⟨⟨before, ⟨stored, kept⟩, after⟩, split, equal⟩ := Option.map_eq_some_iff.mp found
  cases equal
  obtain ⟨entries, answered⟩ := split?_eq_some split
  refine ⟨stored, answered, by simp [entries], fun entry => ?_⟩
  simp only [entries, List.mem_cons, List.mem_append]
  exact or_left_comm

theorem mem_store {cache : Cache} {capacity : Nat} {node : Descriptor} {document : Document}
    {entry : Descriptor × Document}
    (member : entry ∈ (cache.store capacity node document).entries) :
    entry = (node, document) ∨ entry ∈ cache.entries :=
  List.mem_cons.mp (List.mem_of_mem_take member)

end Cache

namespace Session

def Remembers (session : Session) (node : Descriptor) (document : Document) : Prop :=
  ∃ slot ∈ session.caches, (node, document) ∈ slot.2.entries

theorem remembers_of_mem_cache {session : Session} {capacity : Nat} {node : Descriptor}
    {document : Document} (member : (node, document) ∈ (session.cache capacity).entries) :
    session.Remembers node document := by
  unfold cache at member
  split at member
  · next slot found => exact ⟨slot, List.mem_of_find?_eq_some found, member⟩
  · exact nomatch member

theorem Remembers.of_caches {session later : Session} {node : Descriptor}
    {document : Document} (remembered : later.Remembers node document)
    (same : later.caches = session.caches) : session.Remembers node document := by
  unfold Remembers at remembered
  rw [same] at remembered
  exact remembered

theorem remembers_setCache {session : Session} {capacity : Nat} {cache : Cache}
    {node : Descriptor} {document : Document}
    (remembered : (session.setCache capacity cache).Remembers node document) :
    (node, document) ∈ cache.entries ∨ session.Remembers node document := by
  obtain ⟨slot, member, entry⟩ := remembered
  rcases List.mem_cons.mp member with rfl | other
  · exact .inl entry
  · exact .inr ⟨slot, (List.mem_filter.mp other).1, entry⟩

theorem remembers_ask {session : Session} {capacity : Nat} {asked node : Descriptor}
    {known document : Document} {cache : Cache}
    (found : (session.cache capacity).lookup? asked = some (known, cache))
    (remembered : (session.setCache capacity cache).Remembers node document) :
    session.Remembers node document := by
  obtain ⟨_, _, _, rearranged⟩ := Cache.lookup?_eq_some found
  rcases remembers_setCache remembered with entry | before
  · exact remembers_of_mem_cache ((rearranged _).mp entry)
  · exact before

theorem remembers_store {session : Session} {capacity : Nat} {node stored : Descriptor}
    {document known : Document}
    (remembered : (session.setCache capacity
      ((session.cache capacity).store capacity stored known)).Remembers node document) :
    session.Remembers node document ∨ node = stored ∧ document = known := by
  rcases remembers_setCache remembered with entry | before
  · rcases Cache.mem_store entry with new | old
    · cases new
      exact .inr ⟨rfl, rfl⟩
    · exact .inl (remembers_of_mem_cache old)
  · exact .inl before

/-- What may happen to the caches: nothing, forgetting, a look-up, or storing what a
compilation gave, wherever that took place. -/
inductive Step (catalogue : Catalogue) : Session → Session → Prop where
  | aside {session later : Session} (same : later.caches = session.caches) :
      Step catalogue session later
  | clear (session : Session) : Step catalogue session session.clearCaches
  | ask {session : Session} {capacity : Nat} {asked : Descriptor} {document : Document}
      {cache : Cache}
      (found : (session.cache capacity).lookup? asked = some (document, cache)) :
      Step catalogue session (session.setCache capacity cache)
  | store {session origin : Session} {capacity : Nat} {node : Descriptor}
      {document : Document}
      (compiled : (node.compile catalogue).outcome origin = .ok document) :
      Step catalogue session
        (session.setCache capacity ((session.cache capacity).store capacity node document))

/-- Sessions that any number of calls may leave, from empty caches on. -/
def Reachable (catalogue : Catalogue) (session : Session) : Prop :=
  ∃ start : Session, start.caches = [] ∧ Relation.ReflTransGen (Step catalogue) start session

/-- Every document in the caches was compiled from its node at some time. -/
def Faithful (catalogue : Catalogue) (session : Session) : Prop :=
  ∀ node document, session.Remembers node document →
    ∃ origin, (node.compile catalogue).outcome origin = .ok document

variable {catalogue : Catalogue}

theorem faithful_step {session later : Session} (faithful : session.Faithful catalogue)
    (step : Step catalogue session later) : later.Faithful catalogue := by
  intro node document remembered
  cases step with
  | aside same => exact faithful node document (remembered.of_caches same)
  | clear =>
      obtain ⟨slot, member, _⟩ := remembered
      exact nomatch member
  | ask found => exact faithful node document (remembers_ask found remembered)
  | store compiled =>
      rcases remembers_store remembered with before | ⟨rfl, rfl⟩
      · exact faithful node document before
      · exact ⟨_, compiled⟩

theorem Reachable.faithful {session : Session} (reached : session.Reachable catalogue) :
    session.Faithful catalogue := by
  obtain ⟨start, empty, steps⟩ := reached
  induction steps with
  | refl =>
      rintro node document ⟨slot, member, _⟩
      rw [empty] at member
      exact nomatch member
  | tail _ step earlier => exact faithful_step earlier step

theorem Reachable.step {session later : Session} (reached : session.Reachable catalogue)
    (steps : Relation.ReflTransGen (Step catalogue) session later) :
    later.Reachable catalogue := by
  obtain ⟨start, empty, before⟩ := reached
  exact ⟨start, empty, before.trans steps⟩

def stepping (catalogue : Catalogue) : Regime where
  moves := Relation.ReflTransGen (Step catalogue)
  allows _ := True
  stays _ := .refl
  joins := .trans
  makes _ _ := .single (.aside rfl)
  writes _ _ := .single (.aside rfl)
  definition _ := trivial
  fault _ := trivial

end Session

namespace Descriptor

variable {catalogue : Catalogue} {session : Session}

/-- A remembered document was compiled from the node or from an equal one; any other is
compiled from the node now. -/
theorem compileCached_cases {node : Descriptor} {settings : Settings}
    (readable : Settings.read session.environment [] = .accepted settings)
    (hashable : node.hashable = true) :
    (∃ stored document cache, stored.same node = true ∧
      session.Remembers stored document ∧
      (session.cache settings.compileCacheSize).lookup? node = some (document, cache) ∧
      (node.compileCached catalogue).outcome session = .ok document ∧
      (node.compileCached catalogue).after session =
        session.setCache settings.compileCacheSize cache) ∨
    ((session.cache settings.compileCacheSize).lookup? node = none ∧
      (node.compileCached catalogue).outcome session =
        (node.compileAndStore catalogue settings.compileCacheSize).outcome session ∧
      (node.compileCached catalogue).after session =
        (node.compileAndStore catalogue settings.compileCacheSize).after session) := by
  have given : Action.settings.outcome session = .ok settings := by
    rw [Action.outcome_settings, readable]
  unfold compileCached
  rw [Action.outcome_bind_of_ok given, Action.after_bind_of_ok given, Action.after_settings]
  simp only [hashable, Bool.not_true, Bool.false_eq_true, if_false]
  rw [Action.outcome_bind_of_ok Action.outcome_get, Action.after_bind_of_ok Action.outcome_get,
    Action.after_get]
  cases looked : (session.cache settings.compileCacheSize).lookup? node with
  | none => exact .inr ⟨rfl, rfl, rfl⟩
  | some found =>
      obtain ⟨document, cache⟩ := found
      obtain ⟨stored, answered, member, _⟩ := Cache.lookup?_eq_some looked
      have same : stored.same node = true := by
        simp only [Cache.answers, Bool.and_eq_true] at answered
        exact answered.1
      exact .inl ⟨stored, document, cache, same, Session.remembers_of_mem_cache member, rfl,
        rfl, rfl⟩

theorem compileCached_of_refused {complaints : List Complaint}
    (refused : Settings.read session.environment [] = .refused complaints) (node : Descriptor) :
    (node.compileCached catalogue).outcome session = .error (.refused complaints) := by
  apply Action.outcome_bind_of_error
  rw [Action.outcome_settings, refused]

theorem compileCached_of_unhashable {node : Descriptor} {settings : Settings}
    (readable : Settings.read session.environment [] = .accepted settings)
    (unhashable : node.hashable = false) :
    (node.compileCached catalogue).outcome session = .error (.fault .type) := by
  have given : Action.settings.outcome session = .ok settings := by
    rw [Action.outcome_settings, readable]
  unfold compileCached
  rw [Action.outcome_bind_of_ok given, unhashable]
  rfl

theorem compileCached_of_found {node : Descriptor} {settings : Settings}
    (readable : Settings.read session.environment [] = .accepted settings)
    (hashable : node.hashable = true) {document : Document} {cache : Cache}
    (found : (session.cache settings.compileCacheSize).lookup? node = some (document, cache)) :
    (node.compileCached catalogue).outcome session = .ok document ∧
      ∃ stored, stored.same node = true ∧ session.Remembers stored document := by
  rcases compileCached_cases readable hashable with
    ⟨stored, known, _, same, remembered, looked, result, _⟩ | ⟨looked, _⟩
  · rw [found] at looked
    cases looked
    exact ⟨result, stored, same, remembered⟩
  · rw [found] at looked
    exact nomatch looked

theorem outcome_compileAndStore (node : Descriptor) (capacity : Nat) :
    (node.compileAndStore catalogue capacity).outcome session =
      (node.compile catalogue).outcome
        ((Action.write compilerLogger Log.debug
          s!"Compile cache miss for {node.typeName}").after session) := by
  unfold compileAndStore
  rw [Action.outcome_bind_of_ok (Action.outcome_write _ _ _), Action.outcome_bind]
  cases (node.compile catalogue).outcome _ <;> rfl

theorem after_compileAndStore (node : Descriptor) (capacity : Nat) :
    (node.compileAndStore catalogue capacity).after session =
      let begun := (Action.write compilerLogger Log.debug
        s!"Compile cache miss for {node.typeName}").after session
      let done := (node.compile catalogue).after begun
      match (node.compile catalogue).outcome begun with
      | .ok document => done.setCache capacity ((done.cache capacity).store capacity node document)
      | .error _ => done := by
  unfold compileAndStore
  rw [Action.after_bind_of_ok (Action.outcome_write _ _ _), Action.after_bind]
  dsimp only
  cases (node.compile catalogue).outcome _ <;> rfl

theorem readable_and_hashable_of_compileCached {node : Descriptor} {document : Document}
    (result : (node.compileCached catalogue).outcome session = .ok document) :
    (∃ settings, Settings.read session.environment [] = .accepted settings) ∧
      node.hashable = true := by
  obtain ⟨settings, given, rest⟩ := Action.outcome_bind_eq_ok.mp result
  rw [Action.outcome_settings] at given
  constructor
  · cases readable : Settings.read session.environment [] with
    | accepted settings => exact ⟨settings, rfl⟩
    | refused complaints =>
        rw [readable] at given
        exact nomatch given
  · cases hashable : node.hashable with
    | true => rfl
    | false =>
        rw [hashable] at rest
        exact nomatch rest

/-- Every document from the cache was compiled at some time, from the node or from an
equal one. -/
theorem compileCached_compiled (reached : session.Reachable catalogue) {node : Descriptor}
    {document : Document}
    (result : (node.compileCached catalogue).outcome session = .ok document) :
    ∃ stored origin, (stored.compile catalogue).outcome origin = .ok document ∧
      (stored = node ∨ stored.same node = true) := by
  obtain ⟨⟨settings, readable⟩, hashable⟩ := readable_and_hashable_of_compileCached result
  rcases compileCached_cases readable hashable with
    ⟨stored, known, _, same, remembered, _, answer, _⟩ | ⟨_, answer, _⟩
  · rw [result] at answer
    cases answer
    obtain ⟨origin, compiled⟩ := reached.faithful stored document remembered
    exact ⟨stored, origin, compiled, .inr same⟩
  · rw [result, outcome_compileAndStore] at answer
    exact ⟨node, _, answer.symm, .inl rfl⟩

end Descriptor

end RecordSchema
