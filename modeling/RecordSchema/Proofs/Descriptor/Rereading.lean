import RecordSchema.Proofs.Descriptor.Discipline

namespace RecordSchema

/-! Reading a description again.  Where all the objects that reading it makes are ones that classes
share, reading it in a later session gives the same result and makes nothing. -/

/-! ### Sessions over time -/

namespace Instances

/-- All objects made in between are ones that classes have come to share. -/
def SharesOnly (earlier later : Instances) : Prop :=
  later.next + earlier.shared.length = earlier.next + later.shared.length

/-- No class has come to share an object that was not made in between. -/
def MakesShared (earlier later : Instances) : Prop :=
  earlier.next + later.shared.length ≤ later.next + earlier.shared.length

variable {first second third : Instances}

theorem MakesShared.refl (instances : Instances) : MakesShared instances instances :=
  le_rfl

theorem MakesShared.trans (before : MakesShared first second) (after : MakesShared second third) :
    MakesShared first third := by
  unfold MakesShared at *
  omega

theorem MakesShared.share (instances : Instances) (c : ProviderClass) :
    MakesShared instances (instances.share c).2 := by
  cases known : instances.shared? c with
  | some id =>
      rw [share_of_shared known]
      exact .refl _
  | none =>
      rw [Instances.share, known]
      exact Nat.le_of_eq (by simp [fresh, Nat.add_right_comm, Nat.add_assoc])

theorem MakesShared.of_shared {earlier later : Instances} (shared : later.shared = earlier.shared)
    (next : earlier.next ≤ later.next) : MakesShared earlier later := by
  rw [MakesShared, shared]
  omega

/-- What only shares on the whole only shares in each part. -/
theorem SharesOnly.split (whole : SharesOnly first third) (before : MakesShared first second)
    (after : MakesShared second third) : SharesOnly first second ∧ SharesOnly second third := by
  unfold SharesOnly MakesShared at *
  omega

end Instances

/-- The later session has the settings and the registry, and what is left of the objects. -/
structure Session.Precedes (session later : Session) : Prop where
  environment : later.environment = session.environment
  registry : later.registry = session.registry
  grown : session.instances.Grows later.instances

namespace Session.Precedes

variable {first second third : Session}

theorem refl (session : Session) : session.Precedes session where
  environment := rfl
  registry := rfl
  grown := .refl _

theorem trans (before : first.Precedes second) (after : second.Precedes third) :
    first.Precedes third where
  environment := after.environment.trans before.environment
  registry := after.registry.trans before.registry
  grown := before.grown.trans after.grown

end Session.Precedes

/-- Reading leaves a later session, in which no class shares an object that was not made for it. -/
def Reading.orderly : Reading where
  holds action := ∀ session : Session, session.Precedes (action.after session) ∧
    session.instances.MakesShared (action.after session).instances
  value _ session := ⟨.refl session, .refl _⟩
  fail _ session := ⟨.refl session, .refl _⟩
  fault _ session := ⟨.refl session, .refl _⟩
  bind first second session := by
    rw [Action.after_bind]
    have before := first session
    split
    · next value _ =>
        have after := second value
        exact ⟨before.1.trans (after _).1, before.2.trans (after _).2⟩
    · exact before
  policy session := ⟨.refl session, .refl _⟩
  share c session := ⟨⟨rfl, rfl, .share session.instances c⟩, .share _ c⟩
  snapshot options kind session := by
    rw [Action.after_copying]
    have kept := options.snapshot_allocates kind session.instances
    exact ⟨⟨rfl, rfl, .of_shared kept.1 kept.2⟩, .of_shared kept.1 kept.2⟩

/-! ### Copies that make no objects -/

/-- Where the step makes no objects, it gives the same on all others and makes none. -/
def Copying.Repeats (step : Copying α) : Prop :=
  ∀ instances value later, step.run.run instances = (.ok value, later) →
    later.next = instances.next → ∀ others, step.run.run others = (.ok value, others)

namespace Copying.Repeats

protected theorem pure (value : α) : (pure value : Copying α).Repeats := by
  intro instances result later given same others
  cases given
  rfl

protected theorem throw (fault : Fault) : (throw fault : Copying α).Repeats := by
  intro instances result later given
  cases given

protected theorem bind {step : Copying α} {next : α → Copying β} (first : step.Repeats)
    (allocates : step.Allocates) (second : ∀ value, (next value).Repeats)
    (others : ∀ value, (next value).Allocates) : (step >>= next).Repeats := by
  intro instances result later given same elsewhere
  change ExceptT.bindCont next (step.run.run instances).1 (step.run.run instances).2 = _ at given
  have grown := (allocates instances).2
  cases ran : step.run.run instances with
  | mk outcome middle =>
      rw [ran] at given grown
      cases outcome with
      | error fault => cases given
      | ok value =>
          have rest : (next value).run.run middle = (.ok result, later) := given
          have more := (others value middle).2
          rw [rest] at more
          dsimp only at grown more
          -- Objects are only ever added, so if both steps make none, neither does.
          have still : middle.next = instances.next := by omega
          have again := first instances value middle ran still elsewhere
          change ExceptT.bindCont next (step.run.run elsewhere).1
            (step.run.run elsewhere).2 = _
          rw [again]
          exact second value middle result later rest (by omega) elsewhere

/-- What is made of the result makes no objects. -/
protected theorem map {step : Copying α} (first : step.Repeats) (allocates : step.Allocates)
    (f : α → β) : (step >>= fun value => pure (f value)).Repeats :=
  first.bind allocates (fun _ => .pure _) (fun _ => .pure _)

end Copying.Repeats

theorem copyProvider_repeats (c : ProviderClass) (id : Nat) : (copyProvider c id).Repeats := by
  unfold copyProvider
  split
  · exact .throw _
  · split
    · intro instances value later given same
      cases given
      exact absurd same (Nat.succ_ne_self _)
    · exact .pure _

mutual
theorem Value.copy_repeats : (value : Value) → value.copy.Repeats
  | .list items => (copyItems_repeats items).map (copyItems_allocates items) _
  | .tuple items => (copyItems_repeats items).map (copyItems_allocates items) _
  | .set _ members => (copyItems_repeats members).map (copyItems_allocates members) _
  | .map _ entries => (copyEntries_repeats entries).map (copyEntries_allocates entries) _
  | .provider c id => copyProvider_repeats c id
  | .descriptor node => node.copy_repeats.map node.copy_allocates _
  | .field ⟨_, descriptor, _, _⟩ => descriptor.copy_repeats.map descriptor.copy_allocates _
  | .other _ => .throw _
  | .null | .bool _ | .number _ | .text _ | .bytes _ _ | .date _ _ _ | .moment _
  | .providerClass _ | .options _ => .pure _
termination_by structural value => value

theorem copyItems_repeats : (items : List Value) → (copyItems items).Repeats
  | [] => .pure _
  | item :: items =>
      item.copy_repeats.bind item.copy_allocates
        (fun _ => (copyItems_repeats items).map (copyItems_allocates items) _)
        (fun _ => .bind (copyItems_allocates items) (fun _ => .pure _))
termination_by structural items => items

theorem copyEntries_repeats : (entries : List (Value × Value)) → (copyEntries entries).Repeats
  | [] => .pure _
  | (_, value) :: rest =>
      value.copy_repeats.bind value.copy_allocates
        (fun _ => (copyEntries_repeats rest).map (copyEntries_allocates rest) _)
        (fun _ => .bind (copyEntries_allocates rest) (fun _ => .pure _))
termination_by structural entries => entries

theorem Descriptor.copy_repeats : (node : Descriptor) → node.copy.Repeats
  | .primitive _ => .pure _
  | .mapping fields _ => (copyFields_repeats fields).map (copyFields_allocates fields) _
  | .array element _ => element.copy_repeats.map element.copy_allocates _
  | .ref _ _ => .throw _
  | .foreign value => value.copy_repeats.map value.copy_allocates _
termination_by structural node => node

theorem copyFields_repeats : (fields : List Field) → (copyFields fields).Repeats
  | [] => .pure _
  | ⟨_, descriptor, _, _⟩ :: rest =>
      descriptor.copy_repeats.bind descriptor.copy_allocates
        (fun _ => (copyFields_repeats rest).map (copyFields_allocates rest) _)
        (fun _ => .bind (copyFields_allocates rest) (fun _ => .pure _))
termination_by structural fields => fields
end

theorem Entries.snapshot_repeats (entries : Entries) (kind : MapKind) :
    (entries.snapshot kind).Repeats := by
  unfold snapshot
  split
  · exact copyEntries_repeats _
  · exact .throw _

/-! ### Actions that can be taken again -/

/-- Where the action has worked and made shared objects only, the other one gives a related result
in every later session and leaves that as it is. -/
def Action.LastsAs (left : Session) (values : α → β → Prop) (action : Action α)
    (other : Action β) : Prop :=
  ∀ session value, action.outcome session = .ok value →
    session.instances.SharesOnly (action.after session).instances →
    (action.after session).Precedes left →
    ∀ later, left.Precedes later →
      ∃ result, other.run.run later = (.ok result, later) ∧ values value result

namespace Action.LastsAs

variable {left : Session}

protected theorem pure {values : α → β → Prop} {value : α} {result : β}
    (related : values value result) :
    LastsAs left values (pure value) (pure result : Action β) := by
  intro session given done shares before later after
  cases done
  exact ⟨result, rfl, related⟩

/-- What never works. -/
protected theorem throw (error : Error) (values : α → β → Prop) (other : Action β) :
    LastsAs left values (throw error : Action α) other := by
  intro session given done
  cases done

protected theorem weaken {values wider : α → β → Prop} {action : Action α} {other : Action β}
    (lasts : LastsAs left values action other)
    (wide : ∀ value result, values value result → wider value result) :
    LastsAs left wider action other := by
  intro session value done shares before later after
  obtain ⟨result, again, related⟩ := lasts session value done shares before later after
  exact ⟨result, again, wide value result related⟩

protected theorem bind {values : α → β → Prop} {results : γ → δ → Prop} {action : Action α}
    {other : Action β} {next : α → Action γ} {further : β → Action δ}
    (first : LastsAs left values action other) (orderly : Reading.orderly.holds action)
    (second : ∀ value result, values value result →
      LastsAs left results (next value) (further result))
    (others : ∀ value, Reading.orderly.holds (next value)) :
    LastsAs left results (action >>= next) (other >>= further) := by
  intro session final done shares before later after
  obtain ⟨value, given, rest⟩ := Action.outcome_bind_eq_ok.mp done
  rw [Action.after_bind_of_ok given] at shares before
  obtain ⟨onward, made⟩ := others value (action.after session)
  -- Neither part shares an object that it did not make, so each of them only shares.
  obtain ⟨here, there⟩ := shares.split (orderly session).2 made
  obtain ⟨result, again, related⟩ :=
    first session value given here (onward.trans before) later after
  obtain ⟨last, finished, agreed⟩ :=
    second value result related _ final rest there before later after
  refine ⟨last, ?_, agreed⟩
  rw [Action.run_bind_of_run again]
  exact finished

end Action.LastsAs

/-- Reading can be done again. -/
def Reading.lasting (left : Session) : Reading where
  holds action := Reading.orderly.holds action ∧ action.LastsAs left Eq action
  value value := ⟨Reading.orderly.value value, .pure rfl⟩
  fail cause := ⟨Reading.orderly.fail cause, .throw _ _ _⟩
  fault fault := ⟨Reading.orderly.fault fault, .throw _ _ _⟩
  bind first second := by
    refine ⟨Reading.orderly.bind first.1 (fun value => (second value).1),
      first.2.bind first.1 (fun value result same => ?_) (fun value => (second value).1)⟩
    subst same
    exact (second value).2
  policy := by
    refine ⟨Reading.orderly.policy, fun session value done shares before later after => ?_⟩
    cases done
    have same : later.environment = session.environment :=
      after.environment.trans before.environment
    exact ⟨_, rfl, by rw [same]⟩
  share c := by
    refine ⟨Reading.orderly.share c, fun session value done shares before later after => ?_⟩
    cases done
    -- The object that was shared then is shared still, whether or not it was new.
    have known := (before.grown.trans after.grown).kept c _ Instances.shared?_share_self
    have again := Instances.share_of_shared known
    refine ⟨_, ?_, rfl⟩
    change (Except.ok (Value.provider c (later.instances.share c).1),
      { later with instances := (later.instances.share c).2 }) = _
    rw [again]
  snapshot options kind := by
    refine ⟨Reading.orderly.snapshot options kind, fun session value done shares _ later _ => ?_⟩
    have kept := options.snapshot_allocates kind session.instances
    rw [Action.after_copying, Instances.SharesOnly, kept.1] at shares
    have still : ((options.snapshot kind).run.run session.instances).2.next =
        session.instances.next :=
      Nat.add_right_cancel shares
    rw [Action.outcome_copying] at done
    cases result : ((options.snapshot kind).run.run session.instances).1 with
    | error fault =>
        rw [result] at done
        cases done
    | ok taken =>
        rw [result] at done
        cases done
        have run : (options.snapshot kind).run.run later.instances =
            (.ok value, later.instances) :=
          options.snapshot_repeats kind session.instances value _ (Prod.ext result rfl) still
            later.instances
        refine ⟨value, Prod.ext ?_ ?_, rfl⟩
        · change (Action.copying (options.snapshot kind)).outcome later = _
          rw [Action.outcome_copying, run]
        · change (Action.copying (options.snapshot kind)).after later = _
          rw [Action.after_copying, run]

end RecordSchema
