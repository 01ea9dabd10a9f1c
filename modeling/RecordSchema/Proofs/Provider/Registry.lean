import RecordSchema.Proofs.Provider.Growth
import RecordSchema.Proofs.Session.Outcome
import RecordSchema.Proofs.Value.Keys
import RecordSchema.Provider.Registration

namespace RecordSchema

/-! Registries as maps from names to providers, and what registering asks of a candidate. -/

namespace Registry

theorem get?_put (entries : List (String × Value)) (name other : String) (provider : Value) :
    get? ⟨put entries name provider⟩ other =
      if name = other then some provider else get? ⟨entries⟩ other := by
  induction entries with
  | nil =>
      by_cases same : name = other <;> simp [put, get?, same]
  | cons entry rest induction =>
      obtain ⟨first, held⟩ := entry
      rw [put]
      split
      · next here =>
          subst here
          by_cases same : first = other <;> simp [get?, same]
      · next apart =>
          by_cases found : first = other
          · have differs : name ≠ other := fun same => apart (found.trans same.symm)
            simp [get?, found, differs]
          · simpa [get?, found] using induction

theorem get?_insert (registry : Registry) (name other : String) (provider : Value) :
    (registry.insert name provider).get? other =
      if name = other then some provider else registry.get? other :=
  get?_put _ _ _ _

theorem get?_erase (registry : Registry) (name other : String) :
    (registry.erase name).get? other = if name = other then none else registry.get? other := by
  rw [get?, erase, List.find?_filter]
  by_cases same : name = other
  · rw [if_pos same, same, Option.map_eq_none_iff, List.find?_eq_none]
    intro entry _
    simp
  · rw [if_neg same, get?]
    congr 2
    funext entry
    by_cases found : entry.1 = other
    · simp [found, Ne.symm same]
    · simp [found]

theorem mem_put {entries : List (String × Value)} {name : String} {provider : Value}
    {entry : String × Value} (among : entry ∈ put entries name provider) :
    entry ∈ entries ∨ entry = (name, provider) := by
  induction entries with
  | nil => exact .inr (List.mem_singleton.mp among)
  | cons first rest induction =>
      obtain ⟨n, p⟩ := first
      rw [put] at among
      split at among
      · next same =>
          rcases List.mem_cons.mp among with rfl | later
          · exact .inr (same ▸ rfl)
          · exact .inl (List.mem_cons_of_mem _ later)
      · rcases List.mem_cons.mp among with rfl | later
        · exact .inl List.mem_cons_self
        · exact (induction later).imp_left (List.mem_cons_of_mem _)

/-- A name that is new is added at the end, one that is taken stays where it is. -/
theorem map_fst_put (entries : List (String × Value)) (name : String) (provider : Value) :
    (put entries name provider).map Prod.fst =
      if name ∈ entries.map Prod.fst then entries.map Prod.fst
      else entries.map Prod.fst ++ [name] := by
  induction entries with
  | nil => rfl
  | cons entry rest induction =>
      obtain ⟨n, p⟩ := entry
      rw [put]
      by_cases same : n = name
      · simp [same]
      · have other : ¬ name = n := fun eq => same eq.symm
        rw [if_neg same, List.map_cons, induction, List.map_cons]
        simp only [List.mem_cons, other, false_or]
        split <;> rfl

theorem contains_eq_isSome (registry : Registry) (name : String) :
    registry.contains name = (registry.get? name).isSome := by
  rw [get?, Option.isSome_map, contains, Bool.eq_iff_iff, List.any_eq_true,
    List.find?_isSome]

theorem contains_iff {registry : Registry} {name : String} :
    registry.contains name = true ↔ ∃ provider, registry.get? name = some provider := by
  rw [contains_eq_isSome, Option.isSome_iff_exists]

@[simp] theorem length_names (registry : Registry) : registry.names.length = registry.size := by
  rw [names, List.length_mergeSort, List.length_map, size]

end Registry

/-! ### Candidates -/

namespace Value

/-- The candidate has every operation; of a class, an object can be made. -/
def Conforms (candidate : Value) : Prop :=
  candidate.lackedOperations = [] ∧ ∀ c, candidate = .providerClass c → c.refusal = none

/-- The provider that is used for a candidate: for a class the object that it shares, and
anything else for itself. -/
inductive ServedBy (instances : Instances) : Value → Value → Prop where
  | shared {c : ProviderClass} {id : Nat} (known : instances.shared? c = some id) :
      ServedBy instances (.providerClass c) (.provider c id)
  | itself {candidate : Value} (object : ∀ c, candidate ≠ .providerClass c) :
      ServedBy instances candidate candidate

theorem ServedBy.grow {earlier later : Instances} (grown : earlier.Grows later)
    {candidate used : Value} (served : candidate.ServedBy earlier used) :
    candidate.ServedBy later used := by
  cases served with
  | shared known => exact .shared (grown.kept _ _ known)
  | itself object => exact .itself object

variable {candidate : Value}

theorem conform_of_object (able : candidate.lackedOperations = [])
    (object : ∀ c, candidate ≠ .providerClass c) : candidate.conform = pure candidate := by
  have whole : ¬ (!candidate.lackedOperations.isEmpty) = true := by simp [able]
  rw [conform, if_neg whole]
  exact object

/-- A candidate that conforms is served. -/
theorem Conforms.served (conforms : candidate.Conforms) (session : Session) :
    ∃ used, candidate.conform.outcome session = .ok used ∧
      candidate.ServedBy (candidate.conform.after session).instances used ∧
        used.Conforms ∧ used.conform = pure used := by
  obtain ⟨able, makes⟩ := conforms
  by_cases shares : ∃ c, candidate = .providerClass c
  · obtain ⟨c, rfl⟩ := shares
    have object (id : Nat) (d : ProviderClass) : Value.provider c id ≠ .providerClass d := by
      intro same
      cases same
    have whole : (Value.provider c (session.instances.share c).1).lackedOperations = [] := able
    refine ⟨.provider c (session.instances.share c).1, ?_, .shared ?_,
      ⟨whole, fun d same => absurd same (object _ d)⟩, conform_of_object whole (object _)⟩
    · simp [conform, able, makes c rfl]
    · simpa [conform, able, makes c rfl] using Instances.shared?_share_self
  · have object (c : ProviderClass) : candidate ≠ .providerClass c := fun same => shares ⟨c, same⟩
    have itself := conform_of_object able object
    exact ⟨candidate, by rw [itself, Action.outcome_pure], .itself object, ⟨able, makes⟩, itself⟩

/-- One that does not is refused, and nothing is made for it. -/
theorem refused_of_not_conforms (refused : ¬ candidate.Conforms) :
    ∃ error, candidate.conform = throw error := by
  by_cases able : candidate.lackedOperations = []
  · have stuck : ∃ c refusal, candidate = .providerClass c ∧ c.refusal = some refusal := by
      by_contra none
      refine refused ⟨able, fun c same => ?_⟩
      cases refusal : c.refusal with
      | none => rfl
      | some text => exact absurd ⟨c, text, same, refusal⟩ none
    obtain ⟨c, refusal, rfl, refuses⟩ := stuck
    exact ⟨c.complaint refusal, by simp [conform, able, refuses]⟩
  · have lacks : (!candidate.lackedOperations.isEmpty) = true := by simpa using able
    exact ⟨.definition (.notProvider candidate.providerName candidate.lackedOperations),
      by simp only [conform, if_pos lacks]; rfl⟩

end Value

/-! ### Registering -/

namespace Registry

variable {registry : Registry} {name : String} {candidate : Value} {replace : Bool}

/-- A candidate that conforms is registered, unless the name is taken and not to be given to
another provider. -/
theorem register_of_conforms (conforms : candidate.Conforms)
    (free : (registry.contains name && !replace) = false) (session : Session) :
    ∃ used, (registry.register name candidate replace).outcome session =
        .ok (registry.insert name used) ∧
      candidate.ServedBy ((registry.register name candidate replace).after session).instances
        used ∧ used.Conforms ∧ used.conform = pure used := by
  obtain ⟨used, given, served, conforming, itself⟩ := conforms.served session
  refine ⟨used, ?_, ?_, conforming, itself⟩
  · rw [register, Action.outcome_bind_of_ok given, free, if_neg Bool.false_ne_true]
    dsimp only
    split <;> rfl
  · have kept : ((registry.register name candidate replace).after session).instances =
        (candidate.conform.after session).instances := by
      rw [register, Action.after_bind_of_ok given, free, if_neg Bool.false_ne_true]
      dsimp only
      split <;> rfl
    rw [kept]
    exact served

theorem register_refuses
    (refused : ¬ candidate.Conforms ∨ registry.contains name = true ∧ replace = false)
    (session : Session) :
    ∃ error, (registry.register name candidate replace).outcome session = .error error := by
  by_cases conforms : candidate.Conforms
  · obtain ⟨taken, kept⟩ := refused.resolve_left (not_not_intro conforms)
    obtain ⟨used, given, -⟩ := conforms.served session
    refine ⟨.definition (.alreadyRegistered name), ?_⟩
    rw [register, Action.outcome_bind_of_ok given]
    simp [taken, kept]
  · obtain ⟨error, refuses⟩ := Value.refused_of_not_conforms conforms
    refine ⟨error, ?_⟩
    rw [register, refuses]
    exact Action.outcome_bind_of_error (Action.outcome_throw error)

/-- What was registered. -/
theorem register_ok {session : Session} {later : Registry}
    (registered : (registry.register name candidate replace).outcome session = .ok later) :
    ∃ used, later = registry.insert name used ∧
      candidate.ServedBy ((registry.register name candidate replace).after session).instances
        used ∧ used.Conforms ∧ used.conform = pure used := by
  by_cases refused : ¬ candidate.Conforms ∨ registry.contains name = true ∧ replace = false
  · obtain ⟨cause, fails⟩ := register_refuses refused session
    exact nomatch registered.symm.trans fails
  · rw [not_or, not_not] at refused
    have free : (registry.contains name && !replace) = false := by
      by_contra taken
      exact refused.2 (by simpa using taken)
    obtain ⟨used, given, rest⟩ := register_of_conforms refused.1 free session
    cases registered.symm.trans given
    exact ⟨used, rfl, rest⟩

end Registry

end RecordSchema
