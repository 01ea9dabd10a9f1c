import RecordSchema.Document.Compilation
import RecordSchema.Proofs.Descriptor.Congruence

namespace RecordSchema

/-! Which nodes were asked for last.  Of the requests on equal nodes only the latest counts,
and a node is recent as long as few others were asked for since. -/

/-! ### Lists in which items are looked for -/

section Lists

variable {α : Type} {keeps : α → Bool} {items : List α}

theorem exists_mem_take_iff {count : Nat} :
    (∃ item ∈ items.take count, keeps item = true) ↔
      (∃ item ∈ items, keeps item = true) ∧
        (items.takeWhile (fun item => !keeps item)).length < count := by
  induction items generalizing count with
  | nil => simp
  | cons first rest induction =>
      cases count with
      | zero => simp
      | succ count =>
          by_cases here : keeps first = true
          · simp [here]
          · simp [here, induction]

theorem takeWhile_filter {stops : α → Bool}
    (passes : ∀ item ∈ items, keeps item = true → stops item = false) :
    (items.filter (fun item => !stops item)).takeWhile (fun item => !keeps item) =
      (items.takeWhile (fun item => !keeps item)).filter (fun item => !stops item) := by
  induction items with
  | nil => rfl
  | cons first rest induction =>
      obtain ⟨head, tail⟩ := List.forall_mem_cons.mp passes
      by_cases here : keeps first = true
      · simp [here, head here]
      · by_cases stopped : stops first = true
        · simp [here, stopped, induction tail]
        · simp [here, stopped, induction tail]

theorem take_filter_of_take {count : Nat} (kept : ∀ item ∈ items.take count, keeps item = true) :
    (items.filter keeps).take count = items.take count := by
  induction items generalizing count with
  | nil => rfl
  | cons first rest induction =>
      cases count with
      | zero => rfl
      | succ count =>
          rw [List.take_succ_cons, List.forall_mem_cons] at kept
          rw [List.filter_cons_of_pos kept.1, List.take_succ_cons, List.take_succ_cons,
            induction kept.2]

/-- Moving an item to the front of the first ones leaves out the same others. -/
theorem take_move {count : Nat} {item : α} {first last : List α}
    (listed : items.take count = first ++ item :: last) (front : α) :
    (front :: (first ++ (last ++ items.drop count))).take count = front :: (first ++ last) := by
  have lengths := congrArg List.length listed
  rw [List.length_take, List.length_append, List.length_cons] at lengths
  cases count with
  | zero => omega
  | succ bound =>
      rw [List.take_succ_cons, ← List.append_assoc]
      refine congrArg (front :: ·) ?_
      by_cases fits : items.length ≤ bound + 1
      · rw [List.drop_eq_nil_of_le fits, List.append_nil]
        refine List.take_of_length_le ?_
        rw [List.length_append]
        omega
      · refine List.take_left' ?_
        rw [List.length_append]
        omega

end Lists

/-! ### Requests -/

/-- A request that was answered, by a document compiled for it or by one that was kept. -/
structure Request where
  node : Descriptor
  document : Document
  compiled : Bool

namespace Request

/-- Of requests with the latest in front, those that have no later one on an equal node. -/
def latest : List Request → List Request
  | [] => []
  | request :: earlier =>
      request :: (latest earlier).filter (fun other => !other.node.same request.node)

/-- The requests since the latest one on an equal node. -/
def since (requests : List Request) (node : Descriptor) : List Request :=
  requests.takeWhile (fun request => !request.node.same node)

/-- An equal node was asked for, and since its latest request fewer others than the capacity,
where equal nodes count once. -/
def Recent (capacity : Nat) (requests : List Request) (node : Descriptor) : Prop :=
  (∃ request ∈ requests, request.node.same node = true) ∧
    ∀ others : List Descriptor,
      (∀ other ∈ others, ∃ request ∈ since requests node, request.node = other) →
        others.Pairwise (fun a b => a.same b = false) → others.length < capacity

/-- The documents that answered: each was compiled for its request, or is that of the latest
compilation of an equal node before it. -/
def Answered : List Request → Prop
  | [] => True
  | request :: earlier =>
      (request.compiled = true ∨
        ∃ source, earlier.find? (fun other => other.compiled && other.node.same request.node) =
          some source ∧ source.document = request.document) ∧ Answered earlier

section Latest

variable {requests : List Request} {node : Descriptor} {capacity : Nat}

theorem mem_of_mem_latest {request : Request} (among : request ∈ latest requests) :
    request ∈ requests := by
  induction requests with
  | nil => exact among
  | cons first earlier induction =>
      rcases List.mem_cons.mp among with rfl | among
      · exact .head _
      · exact .tail _ (induction (List.mem_filter.mp among).1)

variable (regular : ∀ request ∈ requests, request.node.Regular)
include regular

theorem exists_latest : ∀ request ∈ requests,
    ∃ last ∈ latest requests, request.node.same last.node = true := by
  induction requests with
  | nil => exact List.forall_mem_nil _
  | cons first earlier induction =>
      obtain ⟨head, tail⟩ := List.forall_mem_cons.mp regular
      refine List.forall_mem_cons.mpr ⟨⟨first, .head _, head.self⟩, ?_⟩
      intro request among
      obtain ⟨last, member, equal⟩ := induction tail request among
      have kept := tail last (mem_of_mem_latest member)
      by_cases later : last.node.same first.node = true
      · exact ⟨first, .head _,
          (kept.same_right head (tail request among) later).symm.trans equal⟩
      · exact ⟨last, .tail _ (List.mem_filter.mpr ⟨member, by simpa using later⟩), equal⟩

theorem latest_pairwise :
    (latest requests).Pairwise (fun a b => a.node.same b.node = false) := by
  induction requests with
  | nil => exact .nil
  | cons first earlier induction =>
      obtain ⟨head, tail⟩ := List.forall_mem_cons.mp regular
      refine List.pairwise_cons.mpr ⟨fun other among => ?_, (induction tail).filter _⟩
      obtain ⟨member, unequal⟩ := List.mem_filter.mp among
      rw [head.same_comm (tail other (mem_of_mem_latest member))]
      simpa using unequal

theorem takeWhile_latest (given : node.Regular) :
    (latest requests).takeWhile (fun request => !request.node.same node) =
      latest (since requests node) := by
  unfold since
  induction requests with
  | nil => rfl
  | cons first earlier induction =>
      obtain ⟨head, tail⟩ := List.forall_mem_cons.mp regular
      rw [latest]
      by_cases here : first.node.same node = true
      · simp [here, latest]
      · have passes : ∀ other ∈ latest earlier, other.node.same node = true →
            other.node.same first.node = false := by
          intro other among equal
          have kept := tail other (mem_of_mem_latest among)
          by_contra also
          rw [Bool.not_eq_false] at also
          exact here ((kept.same_left head given also).symm.trans equal)
        simp [here, latest, takeWhile_filter passes, induction tail]

theorem latest_since_length_lt_iff :
    (latest (since requests node)).length < capacity ↔
      ∀ others : List Descriptor,
        (∀ other ∈ others, ∃ request ∈ since requests node, request.node = other) →
          others.Pairwise (fun a b => a.same b = false) → others.length < capacity := by
  have inside : ∀ request ∈ since requests node, request.node.Regular := fun request among =>
    regular request (List.takeWhile_sublist _ |>.subset among)
  constructor
  · intro few others among distinct
    have partners : ∀ other ∈ others, ∃ last ∈ latest (since requests node),
        last.node.Regular ∧ other.same last.node = true := by
      intro other member
      obtain ⟨request, asked, rfl⟩ := among other member
      obtain ⟨last, found, equal⟩ := exists_latest inside request asked
      exact ⟨last, found, inside last (mem_of_mem_latest found), equal⟩
    have regularly : ∀ other ∈ others, other.Regular := by
      intro other member
      obtain ⟨request, asked, rfl⟩ := among other member
      exact inside request asked
    refine Nat.lt_of_le_of_lt (length_le_of_partners ?_ partners) few
    refine distinct.imp_of_mem ?_
    intro a b first second unequal last ⟨kept, left⟩ ⟨_, right⟩
    rw [(regularly a first).join (regularly b second) kept left right] at unequal
    exact nomatch unequal
  · intro few
    have listed := few ((latest (since requests node)).map Request.node) ?_ ?_
    · rwa [List.length_map] at listed
    · intro other member
      obtain ⟨request, among, rfl⟩ := List.mem_map.mp member
      exact ⟨request, mem_of_mem_latest among, rfl⟩
    · exact List.pairwise_map.mpr (latest_pairwise inside)

/-- A node is recent iff one of the latest requests, as many as the capacity, is on an equal
node. -/
theorem recent_iff (given : node.Regular) :
    Recent capacity requests node ↔
      ∃ request ∈ (latest requests).take capacity, request.node.same node = true := by
  have somewhere : (∃ request ∈ latest requests, request.node.same node = true) ↔
      ∃ request ∈ requests, request.node.same node = true := by
    constructor
    · rintro ⟨request, among, equal⟩
      exact ⟨request, mem_of_mem_latest among, equal⟩
    · rintro ⟨request, among, equal⟩
      obtain ⟨last, found, same⟩ := exists_latest regular request among
      have kept := regular last (mem_of_mem_latest found)
      exact ⟨last, found,
        ((regular request among).same_left kept given same).symm.trans equal⟩
  rw [exists_mem_take_iff, takeWhile_latest regular given, somewhere,
    latest_since_length_lt_iff regular]
  rfl

/-- Of the latest requests one at most is on an equal node. -/
theorem filter_latest (given : node.Regular) {first last : List Request} {request : Request}
    (split : latest requests = first ++ request :: last)
    (equal : request.node.same node = true) :
    (latest requests).filter (fun other => !other.node.same node) = first ++ last := by
  have pairwise := latest_pairwise regular
  have inside : ∀ other ∈ latest requests, other.node.Regular := fun other member =>
    regular other (mem_of_mem_latest member)
  rw [split] at pairwise inside ⊢
  obtain ⟨-, later, before⟩ := List.pairwise_append.mp pairwise
  have own : request.node.Regular := inside request (by simp)
  have moved (other : Request) (member : other ∈ first ++ request :: last) :
      other.node.same node = other.node.same request.node :=
    (own.same_right given (inside other member) equal).symm
  rw [List.filter_append, List.filter_cons_of_neg (by simp [equal]), List.filter_eq_self.mpr,
    List.filter_eq_self.mpr]
  · intro other member
    have among : other ∈ first ++ request :: last := List.mem_append_right _ (.tail _ member)
    rw [moved other among, (inside other among).same_comm own,
      (List.pairwise_cons.mp later).1 other member]
    rfl
  · intro other member
    rw [moved other (List.mem_append_left _ member), before other member request (.head _)]
    rfl

/-- A kept document is that of the latest compilation of an equal node. -/
theorem source_of_latest (answered : Answered requests) (given : node.Regular) {last : Request}
    (among : last ∈ latest requests) (equal : last.node.same node = true) :
    ∃ source, requests.find? (fun other => other.compiled && other.node.same node) = some source ∧
      source.document = last.document := by
  induction requests with
  | nil => exact nomatch among
  | cons first earlier induction =>
      obtain ⟨head, tail⟩ := List.forall_mem_cons.mp regular
      obtain ⟨own, before⟩ := answered
      rcases List.mem_cons.mp among with rfl | among
      · by_cases compiled : last.compiled = true
        · exact ⟨last, by simp [compiled, equal], rfl⟩
        · obtain ⟨source, found, same⟩ := own.resolve_left compiled
          refine ⟨source, ?_, same⟩
          rw [List.find?_cons_of_neg (by simp [compiled]), ← found, ← List.head?_filter,
            ← List.head?_filter]
          refine congrArg List.head? (List.filter_congr ?_)
          intro other member
          rw [head.same_right given (tail other member) equal]
      · obtain ⟨member, unequal⟩ := List.mem_filter.mp among
        have kept := tail last (mem_of_mem_latest member)
        have passed : ¬ first.node.same node = true := by
          intro here
          simp [kept.join head given equal here] at unequal
        obtain ⟨source, found, same⟩ := induction tail before member
        exact ⟨source, by rw [List.find?_cons_of_neg (by simp [passed]), found], same⟩

end Latest

end Request

end RecordSchema
