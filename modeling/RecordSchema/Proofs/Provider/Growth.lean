import Mathlib.Algebra.Order.Group.Nat
import RecordSchema.Provider.Snapshot

namespace RecordSchema

/-! Objects over time.  A class keeps the object that it shares, and objects that are made
differ from all that were made before. -/

/-! ### The object that a class shares -/

namespace Instances

variable {instances : Instances} {c d : ProviderClass} {id : Nat}

theorem share_of_shared (shared : instances.shared? c = some id) :
    instances.share c = (id, instances) := by
  rw [share, shared]

theorem shared?_share_self : (instances.share c).2.shared? c = some (instances.share c).1 := by
  cases shared : instances.shared? c with
  | some id => rw [share_of_shared shared, shared]
  | none =>
      rw [share, shared]
      simp [shared?]

@[simp] theorem share_share :
    (instances.share c).2.share c = ((instances.share c).1, (instances.share c).2) :=
  share_of_shared shared?_share_self

theorem shared?_share (shared : instances.shared? c = some id) :
    (instances.share d).2.shared? c = some id := by
  cases other : instances.shared? d with
  | some known => rw [share_of_shared other, shared]
  | none =>
      have differs : d.key ≠ c.key := by
        intro same
        rw [shared?, same] at other
        rw [shared?, other] at shared
        exact nomatch shared
      rw [share, other]
      simpa [shared?, fresh, differs] using shared

/-- What is left of the objects later: a class keeps the one it shares, and one that it comes to
share is new. -/
structure Grows (earlier later : Instances) : Prop where
  kept : ∀ c id, earlier.shared? c = some id → later.shared? c = some id
  next : earlier.next ≤ later.next
  made : ∀ c id, later.shared? c = some id →
    earlier.shared? c = some id ∨ earlier.next ≤ id ∧ id < later.next

theorem Grows.refl (instances : Instances) : Grows instances instances where
  kept _ _ known := known
  next := le_rfl
  made _ _ known := .inl known

theorem Grows.trans {first second third : Instances} (before : Grows first second)
    (after : Grows second third) : Grows first third where
  kept c id known := after.kept c id (before.kept c id known)
  next := before.next.trans after.next
  made c id known := by
    rcases after.made c id known with earlier | ⟨least, most⟩
    · rcases before.made c id earlier with first | ⟨least, most⟩
      · exact .inl first
      · exact .inr ⟨least, most.trans_le after.next⟩
    · exact .inr ⟨before.next.trans least, most⟩

theorem Grows.of_shared {earlier later : Instances} (shared : later.shared = earlier.shared)
    (next : earlier.next ≤ later.next) : Grows earlier later := by
  have same (c : ProviderClass) : later.shared? c = earlier.shared? c := by
    rw [shared?, shared, shared?]
  refine ⟨fun c id known => ?_, next, fun c id known => .inl ?_⟩
  · rw [same, known]
  · rw [← same, known]

theorem Grows.fresh (instances : Instances) : Grows instances instances.fresh.2 :=
  .of_shared rfl (Nat.le_succ _)

theorem Grows.share (instances : Instances) (c : ProviderClass) :
    Grows instances (instances.share c).2 := by
  cases known : instances.shared? c with
  | some id =>
      rw [share_of_shared known]
      exact .refl _
  | none =>
      refine ⟨fun d id => shared?_share, ?_, fun d id given => ?_⟩
      · rw [Instances.share, known]
        exact Nat.le_succ _
      · rw [Instances.share, known] at given ⊢
        by_cases same : c.key = d.key
        · simp only [shared?, Instances.fresh, List.find?_cons, same, decide_true,
            Option.map_some, Option.some.injEq] at given
          exact .inr ⟨given.le, by simp [Instances.fresh, given.symm]⟩
        · refine .inl ?_
          simpa [shared?, Instances.fresh, same] using given

end Instances

/-- The step may make objects, but none that a class shares. -/
def Copying.Allocates (step : Copying α) : Prop :=
  ∀ instances, (step.run.run instances).2.shared = instances.shared ∧
    instances.next ≤ (step.run.run instances).2.next

namespace Copying.Allocates

protected theorem pure (value : α) : (pure value : Copying α).Allocates :=
  fun _ => ⟨rfl, le_rfl⟩

protected theorem throw (fault : Fault) : (throw fault : Copying α).Allocates :=
  fun _ => ⟨rfl, le_rfl⟩

protected theorem bind {step : Copying α} {next : α → Copying β} (first : step.Allocates)
    (second : ∀ value, (next value).Allocates) : (step >>= next).Allocates := by
  intro instances
  change (ExceptT.bindCont next (step.run.run instances).1
    (step.run.run instances).2).2.shared = _ ∧ _ ≤ (ExceptT.bindCont next
      (step.run.run instances).1 (step.run.run instances).2).2.next
  have kept := first instances
  cases (step.run.run instances).1 with
  | ok value =>
      have more := second value (step.run.run instances).2
      exact ⟨more.1.trans kept.1, kept.2.trans more.2⟩
  | error fault => exact kept

end Copying.Allocates

theorem copyProvider_allocates (c : ProviderClass) (id : Nat) :
    (copyProvider c id).Allocates := by
  unfold copyProvider
  split
  · exact .throw _
  · split
    · exact fun _ => ⟨rfl, Nat.le_succ _⟩
    · exact .pure _

mutual
theorem Value.copy_allocates : (value : Value) → value.copy.Allocates
  | .list items => .bind (copyItems_allocates items) (fun _ => .pure _)
  | .tuple items => .bind (copyItems_allocates items) (fun _ => .pure _)
  | .set _ members => .bind (copyItems_allocates members) (fun _ => .pure _)
  | .map _ entries => .bind (copyEntries_allocates entries) (fun _ => .pure _)
  | .provider c id => copyProvider_allocates c id
  | .descriptor node => .bind node.copy_allocates (fun _ => .pure _)
  | .field ⟨_, descriptor, _, _⟩ => .bind descriptor.copy_allocates (fun _ => .pure _)
  | .other _ => .throw _
  | .null | .bool _ | .number _ | .text _ | .bytes _ _ | .date _ _ _ | .moment _
  | .providerClass _ | .options _ => .pure _
termination_by structural value => value

theorem copyItems_allocates : (items : List Value) → (copyItems items).Allocates
  | [] => .pure _
  | item :: items =>
      .bind item.copy_allocates (fun _ => .bind (copyItems_allocates items)
        (fun _ => .pure _))
termination_by structural items => items

theorem copyEntries_allocates : (entries : List (Value × Value)) →
    (copyEntries entries).Allocates
  | [] => .pure _
  | (_, value) :: rest =>
      .bind value.copy_allocates (fun _ => .bind (copyEntries_allocates rest)
        (fun _ => .pure _))
termination_by structural entries => entries

theorem Descriptor.copy_allocates : (node : Descriptor) → node.copy.Allocates
  | .primitive _ => .pure _
  | .mapping fields _ => .bind (copyFields_allocates fields) (fun _ => .pure _)
  | .array element _ => .bind element.copy_allocates (fun _ => .pure _)
  | .ref _ _ => .throw _
  | .foreign value => .bind value.copy_allocates (fun _ => .pure _)
termination_by structural node => node

theorem copyFields_allocates : (fields : List Field) → (copyFields fields).Allocates
  | [] => .pure _
  | ⟨_, descriptor, _, _⟩ :: rest =>
      .bind descriptor.copy_allocates (fun _ => .bind (copyFields_allocates rest)
        (fun _ => .pure _))
termination_by structural fields => fields
end

theorem Entries.delivery_allocates (entries : Entries) : entries.delivery.Allocates := by
  unfold delivery
  split
  · exact copyEntries_allocates _
  · exact .throw _

theorem Entries.snapshot_allocates (entries : Entries) (kind : MapKind) :
    (entries.snapshot kind).Allocates := by
  unfold snapshot
  split
  · exact copyEntries_allocates _
  · exact .throw _

/-- Nothing that a class shares is touched. -/
theorem Copying.Allocates.grows {step : Copying α} (allocates : step.Allocates)
    (instances : Instances) : instances.Grows (step.run.run instances).2 :=
  .of_shared (allocates instances).1 (allocates instances).2

end RecordSchema
