import Mathlib.Data.List.Forall2
import RecordSchema.Proofs.Document.Recency
import RecordSchema.Proofs.Document.Remembered
import RecordSchema.Proofs.Session.Calls

namespace RecordSchema

/-! What the cache of compiled documents retains.  Over any calls it holds the documents of
the latest requests on unequal nodes, as many as its capacity, so a request is answered from
the cache iff its node is recent. -/

/-- Nodes that are filed under their equals: without repetition in what they hold, and with
one key for equal nodes. -/
structure Descriptor.Keyed (asked : Descriptor → Prop) : Prop where
  regular : ∀ node, asked node → node.Regular
  hashable : ∀ node, asked node → node.hashable = true
  agrees : ∀ a b, asked a → asked b → a.same b = true → a.keyAgrees b = true

/-- The entry holds the document of the request, filed under an equal node. -/
structure Request.Kept (asked : Descriptor → Prop) (entry : Descriptor × Document)
    (request : Request) : Prop where
  asked : asked entry.1
  equal : entry.1.same request.node = true
  document : entry.2 = request.document

/-! ### Looking up -/

namespace Cache

theorem split?_eq_none {asked : Descriptor} {entries : List (Descriptor × Document)}
    (missed : split? entries asked = none) : ∀ entry ∈ entries, answers entry.1 asked = false := by
  induction entries with
  | nil => exact List.forall_mem_nil _
  | cons entry rest induction =>
      rw [split?] at missed
      split at missed
      · exact absurd missed (Option.some_ne_none _)
      · next unanswered =>
          exact List.forall_mem_cons.mpr ⟨Bool.eq_false_iff.mpr unanswered,
            induction (Option.map_eq_none_iff.mp missed)⟩

theorem isSome_lookup?_iff {cache : Cache} {node : Descriptor} :
    (cache.lookup? node).isSome = true ↔ ∃ entry ∈ cache.entries, answers entry.1 node = true := by
  unfold lookup?
  rw [Option.isSome_map]
  cases found : split? cache.entries node with
  | none =>
      have unanswered := split?_eq_none found
      simpa using unanswered
  | some parts =>
      obtain ⟨before, entry, after⟩ := parts
      obtain ⟨entries, answered⟩ := split?_eq_some found
      simpa using ⟨entry.1, ⟨entry.2, by simp [entries]⟩, answered⟩

end Cache

namespace Descriptor.Keyed

variable {asked : Descriptor → Prop} (keyed : Descriptor.Keyed asked)
include keyed

theorem answers_eq {stored node : Descriptor} (kept : asked stored) (given : asked node) :
    Cache.answers stored node = stored.same node := by
  unfold Cache.answers
  cases equal : stored.same node with
  | false => rfl
  | true => exact keyed.agrees stored node kept given equal

end Descriptor.Keyed

/-! ### One request -/

namespace Request

variable {asked : Descriptor → Prop} {requests : List Request} {node : Descriptor}
  {capacity : Nat} {document : Document}

theorem exists_partner {entries : List (Descriptor × Document)} {entry : Descriptor × Document}
    {before after : List (Descriptor × Document)} {listed : List Request}
    (kept : List.Forall₂ (Kept asked) entries listed) (split : entries = before ++ entry :: after) :
    ∃ first request last, listed = first ++ request :: last ∧
      List.Forall₂ (Kept asked) before first ∧ Kept asked entry request ∧
        List.Forall₂ (Kept asked) after last := by
  subst split
  induction before generalizing listed with
  | nil =>
      cases kept with
      | cons head tail => exact ⟨[], _, _, rfl, .nil, head, tail⟩
  | cons other before induction =>
      cases kept with
      | cons head tail =>
          obtain ⟨first, request, last, rfl, left, own, right⟩ := induction tail
          exact ⟨_ :: first, request, last, rfl, .cons head left, own, right⟩

section Step

variable (keyed : Descriptor.Keyed asked) (given : asked node)
  (among : ∀ request ∈ requests, asked request.node)
include keyed given among

theorem isSome_lookup?_iff {cache : Cache}
    (kept : List.Forall₂ (Kept asked) cache.entries ((latest requests).take capacity)) :
    (cache.lookup? node).isSome = true ↔ Recent capacity requests node := by
  have regular : ∀ request ∈ requests, request.node.Regular := fun request member =>
    keyed.regular _ (among request member)
  rw [recent_iff regular (keyed.regular node given), Cache.isSome_lookup?_iff]
  have inside : ∀ request ∈ (latest requests).take capacity, request.node.Regular :=
    fun request member => regular request (mem_of_mem_latest (List.mem_of_mem_take member))
  generalize (latest requests).take capacity = listed at kept inside
  generalize cache.entries = entries at kept
  induction kept with
  | nil => simp
  | @cons entry request entries listed head tail induction =>
      obtain ⟨first, rest⟩ := List.forall_mem_cons.mp inside
      have stored := keyed.regular _ head.asked
      have answers : Cache.answers entry.1 node = request.node.same node := by
        rw [keyed.answers_eq head.asked given]
        exact stored.same_left first (keyed.regular node given) head.equal
      rw [List.exists_mem_cons_iff, List.exists_mem_cons_iff, answers]
      exact or_congr_right (induction rest)

/-- A request from the cache puts its entry in front of the others. -/
theorem take_latest_of_found {first last : List Request} {request : Request}
    (listed : (latest requests).take capacity = first ++ request :: last)
    (equal : request.node.same node = true) (compiled : Bool) :
    (latest (⟨node, document, compiled⟩ :: requests)).take capacity =
      ⟨node, document, compiled⟩ :: (first ++ last) := by
  have regular : ∀ other ∈ requests, other.node.Regular := fun other member =>
    keyed.regular _ (among other member)
  have split : latest requests =
      first ++ request :: (last ++ (latest requests).drop capacity) :=
    (List.take_append_drop capacity (latest requests)).symm.trans (by simp [listed])
  rw [latest, filter_latest regular (keyed.regular node given) split equal]
  exact take_move listed _

/-- A request for which a document is compiled puts it in front of those that stay. -/
theorem take_latest_of_missed (missed : ¬ Recent capacity requests node) (compiled : Bool) :
    (latest (⟨node, document, compiled⟩ :: requests)).take capacity =
      (⟨node, document, compiled⟩ :: (latest requests).take capacity).take capacity := by
  have regular : ∀ request ∈ requests, request.node.Regular := fun request member =>
    keyed.regular _ (among request member)
  rw [recent_iff regular (keyed.regular node given)] at missed
  cases capacity with
  | zero => rfl
  | succ bound =>
      rw [latest, List.take_succ_cons, List.take_succ_cons, List.take_take, Nat.min_eq_left
        (Nat.le_succ bound)]
      refine congrArg (_ :: ·) (take_filter_of_take ?_)
      intro other member
      have inside : other ∈ (latest requests).take (bound + 1) :=
        (List.take_sublist_take_left (Nat.le_succ bound)).subset member
      rw [Bool.not_eq_true', Bool.eq_false_iff]
      exact fun equal => missed ⟨other, inside, equal⟩

end Step

end Request

/-! ### Sessions -/

namespace Session

/-- The settings can be read, and they give the caches this size. -/
def Sized (session : Session) (capacity : Nat) : Prop :=
  ∃ settings, Settings.read session.environment [] = .accepted settings ∧
    settings.compileCacheSize = capacity

/-- Sessions with the requests that were answered since the caches were last cleared, the
latest in front.  A call that fails is none of them, and what happens besides the calls leaves
the caches alone. -/
inductive Served (catalogue : Catalogue) (asked : Descriptor → Prop) (capacity : Nat) :
    Session → List Request → Prop where
  | start {session : Session} (fresh : session.caches = []) (sized : session.Sized capacity) :
      Served catalogue asked capacity session []
  | cleared {session : Session} {requests : List Request}
      (served : Served catalogue asked capacity session requests) :
      Served catalogue asked capacity (RecordSchema.clearCaches.after session) []
  | answered {session : Session} {requests : List Request} {node : Descriptor}
      {document : Document} (served : Served catalogue asked capacity session requests)
      (given : asked node)
      (result : (node.compileCached catalogue).outcome session = .ok document) :
      Served catalogue asked capacity ((node.compileCached catalogue).after session)
        (⟨node, document, ((session.cache capacity).lookup? node).isNone⟩ :: requests)
  | failed {session : Session} {requests : List Request} {node : Descriptor} {error : Error}
      (served : Served catalogue asked capacity session requests) (given : asked node)
      (result : (node.compileCached catalogue).outcome session = .error error) :
      Served catalogue asked capacity ((node.compileCached catalogue).after session) requests
  | aside {session later : Session} {requests : List Request}
      (served : Served catalogue asked capacity session requests)
      (caches : later.caches = session.caches) (sized : later.Sized capacity) :
      Served catalogue asked capacity later requests

/-- The one cache holds the documents of the latest requests. -/
structure Retains (asked : Descriptor → Prop) (capacity : Nat) (session : Session)
    (requests : List Request) : Prop where
  sized : session.Sized capacity
  among : ∀ request ∈ requests, asked request.node
  answered : Request.Answered requests
  single : session.caches = [] ∨ ∃ cache, session.caches = [(capacity, cache)]
  kept : List.Forall₂ (Request.Kept asked) (session.cache capacity).entries
    ((Request.latest requests).take capacity)

theorem cache_setCache (session : Session) (capacity : Nat) (cache : Cache) :
    (session.setCache capacity cache).cache capacity = cache := by
  simp [setCache, Session.cache]

theorem cache_of_caches {session later : Session} (same : later.caches = session.caches)
    (capacity : Nat) : later.cache capacity = session.cache capacity := by
  unfold Session.cache
  rw [same]

namespace Retains

variable {asked : Descriptor → Prop} {capacity : Nat} {session later : Session}
  {requests : List Request} {node : Descriptor} {document : Document}

theorem aside (retains : session.Retains asked capacity requests)
    (caches : later.caches = session.caches) (sized : later.Sized capacity) :
    later.Retains asked capacity requests where
  sized := sized
  among := retains.among
  answered := retains.answered
  single := by
    rw [caches]
    exact retains.single
  kept := by
    rw [cache_of_caches caches]
    exact retains.kept

theorem of_fresh (fresh : session.caches = []) (sized : session.Sized capacity) :
    session.Retains asked capacity [] where
  sized := sized
  among := List.forall_mem_nil _
  answered := trivial
  single := .inl fresh
  kept := by
    have empty : (session.cache capacity).entries = [] := by simp [Session.cache, fresh]
    rw [empty, Request.latest, List.take_nil]
    exact .nil

theorem single_setCache (retains : session.Retains asked capacity requests) (cache : Cache) :
    (session.setCache capacity cache).caches = [(capacity, cache)] := by
  rcases retains.single with empty | ⟨before, held⟩
  · simp [setCache, empty]
  · simp [setCache, held]

theorem size_le (retains : session.Retains asked capacity requests) :
    (session.caches.flatMap (fun slot => slot.2.entries)).length ≤ capacity := by
  rcases retains.single with empty | ⟨cache, held⟩
  · simp [empty]
  · have same : session.cache capacity = cache := by simp [Session.cache, held]
    have lengths := retains.kept.length_eq
    rw [same] at lengths
    rw [held, List.flatMap_singleton, lengths, List.length_take]
    exact Nat.min_le_left _ _

variable (keyed : Descriptor.Keyed asked) (given : asked node)
include keyed given

theorem lookup?_iff (retains : session.Retains asked capacity requests) :
    ((session.cache capacity).lookup? node).isSome = true ↔ Request.Recent capacity requests node :=
  Request.isSome_lookup?_iff keyed given retains.among retains.kept

/-- What is found is the document of the latest compilation, and its entry comes first. -/
theorem found (retains : session.Retains asked capacity requests) {cache : Cache}
    (found : (session.cache capacity).lookup? node = some (document, cache)) :
    (∃ source, requests.find? (fun other => other.compiled && other.node.same node) =
        some source ∧ source.document = document) ∧
      (session.setCache capacity cache).Retains asked capacity
        (⟨node, document, false⟩ :: requests) := by
  have regular : ∀ request ∈ requests, request.node.Regular := fun request member =>
    keyed.regular _ (retains.among request member)
  obtain ⟨⟨before, ⟨stored, known⟩, after⟩, split, equal⟩ := Option.map_eq_some_iff.mp found
  obtain ⟨entries, answered⟩ := Cache.split?_eq_some split
  cases equal
  obtain ⟨first, request, last, listed, left, own, right⟩ :=
    Request.exists_partner retains.kept entries
  have same : stored.same node = true := by
    rw [← keyed.answers_eq own.asked given]
    exact answered
  have among : request ∈ Request.latest requests := by
    refine List.mem_of_mem_take (i := capacity) ?_
    simp [listed]
  have member := regular request (Request.mem_of_mem_latest among)
  have partner : request.node.same node = true :=
    ((keyed.regular stored own.asked).same_left member (keyed.regular node given)
      own.equal).symm.trans same
  obtain ⟨source, latest, document⟩ := Request.source_of_latest regular retains.answered
    (keyed.regular node given) among partner
  have source : ∃ source, requests.find? (fun other => other.compiled && other.node.same node) =
      some source ∧ source.document = known := ⟨source, latest, document.trans own.document.symm⟩
  refine ⟨source, retains.sized, List.forall_mem_cons.mpr ⟨given, retains.among⟩,
    ⟨.inr source, retains.answered⟩, .inr ⟨_, retains.single_setCache _⟩, ?_⟩
  rw [cache_setCache, Request.take_latest_of_found keyed given retains.among listed partner]
  exact .cons ⟨own.asked, same, rfl⟩ (List.rel_append left right)

/-- What is compiled is stored in front of what stays. -/
theorem stored (retains : session.Retains asked capacity requests)
    (missed : ¬ Request.Recent capacity requests node) :
    (session.setCache capacity ((session.cache capacity).store capacity node document)).Retains
      asked capacity (⟨node, document, true⟩ :: requests) := by
  refine ⟨retains.sized, List.forall_mem_cons.mpr ⟨given, retains.among⟩,
    ⟨.inl rfl, retains.answered⟩, .inr ⟨_, retains.single_setCache _⟩, ?_⟩
  rw [cache_setCache, Request.take_latest_of_missed keyed given retains.among missed]
  refine List.forall₂_take capacity (.cons ⟨given, ?_, rfl⟩ retains.kept)
  exact (keyed.regular node given).self

end Retains

/-! ### Calls -/

variable {catalogue : Catalogue} {asked : Descriptor → Prop} {capacity : Nat}
  {session : Session} {requests : List Request} {node : Descriptor}

/-- A call either finds a document, whatever the providers do, or compiles one and stores it. -/
theorem Sized.compileCached_cases (sized : session.Sized capacity)
    (hashable : node.hashable = true) :
    (∃ document cache, (session.cache capacity).lookup? node = some (document, cache) ∧
      ∀ catalogue : Catalogue, (node.compileCached catalogue).outcome session = .ok document ∧
        (node.compileCached catalogue).after session = session.setCache capacity cache) ∨
    ((session.cache capacity).lookup? node = none ∧
      ∀ catalogue : Catalogue,
        (node.compileCached catalogue).outcome session =
          (node.compileAndStore catalogue capacity).outcome session ∧
        (node.compileCached catalogue).after session =
          (node.compileAndStore catalogue capacity).after session) := by
  obtain ⟨settings, readable, rfl⟩ := sized
  cases looked : (session.cache settings.compileCacheSize).lookup? node with
  | some found =>
      obtain ⟨document, cache⟩ := found
      refine .inl ⟨document, cache, rfl, fun catalogue => ?_⟩
      rcases @Descriptor.compileCached_cases catalogue session node settings readable hashable with
        ⟨_, _, _, _, _, again, result, after⟩ | ⟨missed, _⟩
      · rw [looked] at again
        cases again
        exact ⟨result, after⟩
      · rw [looked] at missed
        exact nomatch missed
  | none =>
      refine .inr ⟨rfl, fun catalogue => ?_⟩
      rcases @Descriptor.compileCached_cases catalogue session node settings readable hashable with
        ⟨_, _, _, _, _, found, _⟩ | ⟨_, result, after⟩
      · rw [looked] at found
        exact nomatch found
      · exact ⟨result, after⟩

/-- Compiling leaves the caches and the settings alone. -/
theorem Retains.compiled (resolves : catalogue.ResolvesWithin .uncached)
    (retains : session.Retains asked capacity requests) (node : Descriptor) :
    ((node.compile catalogue).after ((Action.write Descriptor.compilerLogger Log.debug
      s!"Compile cache miss for {node.typeName}").after session)).Retains asked capacity
        requests := by
  have kept := (node.compile_within resolves).moves ((Action.write Descriptor.compilerLogger
    Log.debug s!"Compile cache miss for {node.typeName}").after session)
  obtain ⟨settings, readable, size⟩ := retains.sized
  refine retains.aside kept.2 ⟨settings, ?_, size⟩
  rw [kept.1]
  exact readable

theorem Served.retains (resolves : catalogue.ResolvesWithin .uncached)
    (keyed : Descriptor.Keyed asked) (served : session.Served catalogue asked capacity requests) :
    session.Retains asked capacity requests := by
  induction served with
  | start fresh sized => exact .of_fresh fresh sized
  | cleared _ retains => exact .of_fresh rfl retains.sized
  | aside _ caches sized retains => exact retains.aside caches sized
  | @answered session requests node document _ given result retains =>
      rcases retains.sized.compileCached_cases (keyed.hashable _ given) with
        ⟨known, cache, found, always⟩ | ⟨missed, always⟩
      · obtain ⟨answer, after⟩ := always catalogue
        rw [result] at answer
        cases answer
        rw [after, found]
        exact (retains.found keyed given found).2
      · obtain ⟨answer, after⟩ := always catalogue
        rw [result, Descriptor.outcome_compileAndStore] at answer
        rw [after, missed, Descriptor.after_compileAndStore]
        simp only [← answer]
        refine (retains.compiled resolves node).stored keyed given ?_
        rw [← retains.lookup?_iff keyed given, missed]
        exact Bool.false_ne_true
  | @failed session requests node error _ given result retains =>
      rcases retains.sized.compileCached_cases (keyed.hashable _ given) with
        ⟨known, cache, found, always⟩ | ⟨missed, always⟩
      · rw [(always catalogue).1] at result
        exact nomatch result
      · obtain ⟨answer, after⟩ := always catalogue
        rw [result, Descriptor.outcome_compileAndStore] at answer
        rw [after, Descriptor.after_compileAndStore]
        simp only [← answer]
        exact retains.compiled resolves node

/-! ### What a call is answered with -/

namespace Retains

variable (retains : session.Retains asked capacity requests) (keyed : Descriptor.Keyed asked)
  (given : asked node)
include retains keyed given

theorem recalls (found : ((session.cache capacity).lookup? node).isSome = true) :
    ∃ source caches,
      requests.find? (fun other => other.compiled && other.node.same node) = some source ∧
        ∀ catalogue : Catalogue,
          (node.compileCached catalogue).outcome session = .ok source.document ∧
            (node.compileCached catalogue).after session = { session with caches := caches } := by
  rcases retains.sized.compileCached_cases (keyed.hashable _ given) with
    ⟨document, cache, held, always⟩ | ⟨missed, _⟩
  · obtain ⟨⟨source, latest, rfl⟩, -⟩ := retains.found keyed given held
    exact ⟨source, _, latest, always⟩
  · rw [missed] at found
    exact nomatch found

theorem recompiles (catalogue : Catalogue)
    (missed : ¬ ((session.cache capacity).lookup? node).isSome = true) :
    let begun := (Action.write Descriptor.compilerLogger Log.debug
      s!"Compile cache miss for {node.typeName}").after session
    (node.compileCached catalogue).outcome session = (node.compile catalogue).outcome begun ∧
      ∃ caches, (node.compileCached catalogue).after session =
        { (node.compile catalogue).after begun with caches := caches } := by
  intro begun
  rcases retains.sized.compileCached_cases (keyed.hashable _ given) with
    ⟨_, _, found, _⟩ | ⟨_, always⟩
  · rw [found] at missed
    exact absurd rfl missed
  · obtain ⟨answer, after⟩ := always catalogue
    rw [answer, after, Descriptor.outcome_compileAndStore, Descriptor.after_compileAndStore]
    refine ⟨rfl, ?_⟩
    dsimp only
    split
    · exact ⟨_, rfl⟩
    · exact ⟨_, rfl⟩

theorem caches_of_failed (resolves : catalogue.ResolvesWithin .uncached) {error : Error}
    (failed : (node.compileCached catalogue).outcome session = .error error) :
    ((node.compileCached catalogue).after session).caches = session.caches := by
  rcases retains.sized.compileCached_cases (keyed.hashable _ given) with
    ⟨_, _, _, always⟩ | ⟨_, always⟩
  · rw [(always catalogue).1] at failed
    exact nomatch failed
  · obtain ⟨answer, after⟩ := always catalogue
    rw [failed, Descriptor.outcome_compileAndStore] at answer
    rw [after, Descriptor.after_compileAndStore]
    simp only [← answer]
    exact ((node.compile_within resolves).moves _).2

end Retains

/-- The cache over any calls, with providers that leave it alone but may otherwise change
their answers.  A request is answered from the cache iff its node is recent.  It then gets the
document of the latest compilation of an equal node, and no provider is asked; any other is
compiled anew.  A call that fails leaves the caches as they are, and they never hold more
documents than their size. -/
theorem Served.answers_recent (resolves : catalogue.ResolvesWithin .uncached)
    (keyed : Descriptor.Keyed asked) (served : session.Served catalogue asked capacity requests)
    (given : asked node) :
    let found := ((session.cache capacity).lookup? node).isSome = true
    let begun := (Action.write Descriptor.compilerLogger Log.debug
      s!"Compile cache miss for {node.typeName}").after session
    (found ↔ Request.Recent capacity requests node) ∧
      (found → ∃ source caches,
        requests.find? (fun other => other.compiled && other.node.same node) = some source ∧
          ∀ other : Catalogue,
            (node.compileCached other).outcome session = .ok source.document ∧
              (node.compileCached other).after session = { session with caches := caches }) ∧
      (¬ found →
        (node.compileCached catalogue).outcome session = (node.compile catalogue).outcome begun ∧
          ∃ caches, (node.compileCached catalogue).after session =
            { (node.compile catalogue).after begun with caches := caches }) ∧
      (∀ error, (node.compileCached catalogue).outcome session = .error error →
        ((node.compileCached catalogue).after session).caches = session.caches) ∧
      (session.caches.flatMap (fun slot => slot.2.entries)).length ≤ capacity := by
  intro found begun
  have retains := served.retains resolves keyed
  exact ⟨retains.lookup?_iff keyed given, retains.recalls keyed given,
    retains.recompiles keyed given catalogue,
    fun _ => retains.caches_of_failed keyed given resolves, retains.size_le⟩

/-- A provider that registers itself, and changes its answer by that, is not asked again. -/
theorem Served.answers_recent_of_changed_answer :
    let c : ProviderClass := { key := "Spec", typeName := "Spec" }
    let catalogue : Catalogue := fun _ =>
      { resolve := fun id _ => do
          let known := (← get).registry.entries
          modify (fun session => { session with registry := ⟨("Spec", .provider c id) :: known⟩ })
          return .text (if known.isEmpty then "string" else "integer")
        convertValue := fun _ _ _ value => pure value }
    let node : Descriptor := .ref (.provider c 0) []
    let document : Document := [.type (.one .string)]
    let session : Session := (node.compileCached catalogue).after {}
    let requests : List Request := [⟨node, document, true⟩]
    catalogue.ResolvesWithin .uncached ∧ Descriptor.Keyed (· = node) ∧
      session.Served catalogue (· = node) 256 requests ∧ Request.Recent 256 requests node ∧
        (node.compileCached catalogue).outcome session = .ok document ∧
          (node.compile catalogue).outcome session = .ok [.type (.one .integer)] := by
  intro c catalogue node document session requests
  have resolves : catalogue.ResolvesWithin .uncached := fun _ _ _ =>
    .bind .get (fun _ => .bind (.modify (fun _ => ⟨rfl, rfl⟩)) (fun _ => .pure _))
  have keyed : Descriptor.Keyed (· = node) := by
    refine ⟨?_, ?_, ?_⟩
    · rintro _ rfl
      exact ⟨trivial, .nil, trivial⟩
    · rintro _ rfl
      rfl
    · rintro _ _ rfl rfl _
      rfl
  have sized : Session.Sized {} 256 := ⟨_, rfl, rfl⟩
  have first : (node.compileCached catalogue).outcome {} = .ok document := rfl
  have served : session.Served catalogue (· = node) 256 requests :=
    .answered (.start rfl sized) rfl first
  obtain ⟨recent, recalled, -⟩ := Served.answers_recent resolves keyed served rfl
  have found : ((session.cache 256).lookup? node).isSome = true := rfl
  obtain ⟨source, _, latest, always⟩ := recalled found
  cases latest
  exact ⟨resolves, keyed, served, recent.mp found, (always catalogue).1, rfl⟩

end Session

end RecordSchema
