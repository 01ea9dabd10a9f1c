import RecordSchema.Proofs.Conversion.Invisibility
import RecordSchema.Proofs.Document.Ordering
import RecordSchema.Proofs.Number.Digits

namespace RecordSchema

/-! Where issues stand in their list.  Places are compared part by part as texts: containers come
before what is in them and keys are in order, but positions are ordered by their digits. -/

/-! ### The order of places that part at a step -/

theorem textsLe_append (shared first second : List String) :
    textsLe (shared ++ first) (shared ++ second) = textsLe first second := by
  induction shared with
  | nil => rfl
  | cons part rest induction =>
      rw [List.cons_append, List.cons_append, textsLe, if_pos rfl]
      exact induction

theorem textsLe_cons_of_lt {first second : String} (less : first < second)
    (left right : List String) : textsLe (second :: right) (first :: left) = false := by
  rw [textsLe, if_neg (ne_of_gt less)]
  exact decide_eq_false (lt_asymm less)

namespace Issue

/-- Whatever is listed for the first place stands before whatever is listed for the second. -/
def Ahead (issues : List Issue) (first second : Location) : Prop :=
  ∀ (m n : Nat) (a b : Issue), issues[m]? = some a → issues[n]? = some b →
    a.path = first → b.path = second → m < n

theorem ahead_of_sorted {issues : List Issue} {first second : Location}
    (sorted : issues.Pairwise (fun a b => textsLe a.sortKey b.sortKey = true))
    (later : textsLe (second.map Value.display) (first.map Value.display) = false) :
    Ahead issues first second := by
  intro m n a b left right here there
  subst here there
  by_contra behind
  have ordered : textsLe b.sortKey a.sortKey = true := by
    rcases Nat.eq_or_lt_of_le (Nat.not_lt.mp behind) with same | less
    · subst same
      obtain rfl : a = b := Option.some.inj (left.symm.trans right)
      exact (textsLe_total a.sortKey a.sortKey).elim id id
    · obtain ⟨inside, rfl⟩ := List.getElem?_eq_some_iff.mp left
      obtain ⟨within, rfl⟩ := List.getElem?_eq_some_iff.mp right
      exact List.pairwise_iff_getElem.mp sorted n m within inside less
  exact Bool.false_ne_true (later.symm.trans ordered)

/-- A container comes before what is in it, and a key before a larger one.  A position comes
before a larger one if it does not pass that one when zeros fill it up to as many digits, and
after it otherwise. -/
structure Arranged (issues : List Issue) : Prop where
  container : ∀ place step rest, Ahead issues place (place ++ step :: rest)
  key : ∀ shared (first second : String) left right, first < second →
    Ahead issues (shared ++ .text first :: left) (shared ++ .text second :: right)
  position : ∀ shared (first second : Nat) left right, first < second →
    if first * 10 ^ (Digits.count second - Digits.count first) ≤ second then
      Ahead issues (shared ++ .int first :: left) (shared ++ .int second :: right)
    else Ahead issues (shared ++ .int second :: right) (shared ++ .int first :: left)

end Issue

namespace Document

theorem issues_pairwise (document : Document) (value : Value) :
    (document.issues value).Pairwise (fun a b => textsLe a.sortKey b.sortKey = true) := by
  let order (a b : Issue) : Bool := textsLe a.sortKey b.sortKey
  have trans (a b c : Issue) : order a b = true → order b c = true → order a c = true :=
    textsLe_trans
  have total (a b : Issue) : (order a b || order b a) = true :=
    Bool.or_eq_true_iff.mpr (textsLe_total a.sortKey b.sortKey)
  exact List.pairwise_mergeSort trans total (document.rawIssues value)

theorem ahead_of_parting (document : Document) (value : Value) {shared : Location}
    {first second : Value} {left right : Location} (less : first.display < second.display) :
    Issue.Ahead (document.issues value) (shared ++ first :: left) (shared ++ second :: right) := by
  refine Issue.ahead_of_sorted (document.issues_pairwise value) ?_
  rw [List.map_append, List.map_append, textsLe_append]
  exact textsLe_cons_of_lt less _ _

theorem issues_arranged (document : Document) (value : Value) :
    Issue.Arranged (document.issues value) where
  container place step rest := by
    refine Issue.ahead_of_sorted (document.issues_pairwise value) ?_
    have longer := textsLe_append (place.map Value.display) ((step :: rest).map Value.display) []
    rw [List.append_nil, ← List.map_append] at longer
    exact longer
  key shared first second left right less :=
    document.ahead_of_parting value (show (Value.text first).display < (Value.text second).display
      from less)
  position shared first second left right less := by
    split
    · next fits =>
        refine document.ahead_of_parting value ?_
        exact (Digits.toString_lt_iff less).mpr fits
    · next passes =>
        refine document.ahead_of_parting value ?_
        have unequal : toString first ≠ toString second :=
          fun same => less.ne (Digits.toString_inj.mp same)
        exact (lt_or_gt_of_ne unequal).resolve_left
          (fun before => passes ((Digits.toString_lt_iff less).mp before))

end Document

namespace Value

variable {catalogue : Catalogue} {session : Session} {spec value : Value} {issues : List Issue}

/-- Whatever the schema and the value are, the issues are in the order of their places, positions
in the order of their texts. -/
theorem issues_in_order (given : (spec.issues catalogue value).outcome session = .ok issues) :
    Issue.Arranged issues := by
  obtain ⟨node, -, found⟩ := Action.outcome_bind_eq_ok.mp given
  obtain ⟨document, -, listed⟩ := Action.outcome_bind_eq_ok.mp found
  cases listed
  exact document.issues_arranged value

/-- What is wrong in a row comes after the row itself, and the tenth row before the second one. -/
theorem issues_in_order_of_rows :
    let catalogue : Catalogue := fun _ => .delegating
    let node : Descriptor := .array (.mapping
      [⟨"b", .primitive .null, false, none⟩, ⟨"a", .primitive .null, false, none⟩] false) {}
    let row : Value := .map .plain [(.text "a", .null), (.text "b", .null)]
    let flawed : Value := .map .plain [(.text "b", .int 0), (.text "c", .null), (.text "a", .int 0)]
    let value : Value := .list ([row, row, flawed] ++ List.replicate 7 row ++ [.null])
    ∃ issues, (Value.issues catalogue (.descriptor node) value).outcome {} = .ok issues ∧
      Issue.Arranged issues ∧
      Issue.Ahead issues [.int 2] [.int 2, .text "a"] ∧
      Issue.Ahead issues [.int 2, .text "a"] [.int 2, .text "b"] ∧
      Issue.Ahead issues [.int 10] [.int 2] := by
  intro catalogue node row flawed value
  have free : node.ProviderFree := ⟨trivial, trivial, trivial⟩
  obtain ⟨document, compiled⟩ :
      ∃ document, (node.compileCached catalogue).outcome {} = .ok document :=
    Descriptor.compileCached_of_providerFree free rfl
  have given : (Value.issues catalogue (.descriptor node) value).outcome {} =
      .ok (document.issues value) := by
    change (node.issues catalogue value).outcome {} = _
    rw [Descriptor.outcome_issues, compiled]
  have arranged := issues_in_order given
  have positions := arranged.position [] 2 10 [] [] (by decide)
  rw [if_neg (by decide)] at positions
  exact ⟨_, given, arranged, arranged.container [.int 2] (.text "a") [],
    arranged.key [.int 2] "a" "b" [] [] (by decide), positions⟩

/-- Two items of a list are no integers, and the later one is listed first. -/
theorem issue_of_later_item_first :
    let catalogue : Catalogue := fun _ => .delegating
    let spec : Value := .list [.text "integer"]
    let value : Value :=
      .list ([.int 0, .int 1, .text "x"] ++ List.replicate 7 (.int 3) ++ [.text "y"])
    (spec.issues catalogue value).outcome {} =
      .ok [⟨[.int 10], "'y' is not of type 'integer'"⟩,
        ⟨[.int 2], "'x' is not of type 'integer'"⟩] := by
  intro catalogue spec value
  let second : Issue := ⟨[.int 2], "'x' is not of type 'integer'"⟩
  let tenth : Issue := ⟨[.int 10], "'y' is not of type 'integer'"⟩
  have later : textsLe second.sortKey tenth.sortKey = false := by decide
  have sorted : [second, tenth].mergeSort (fun a b => textsLe a.sortKey b.sortKey) =
      [tenth, second] := by
    simp [List.mergeSort, List.MergeSort.Internal.splitInTwo, later]
  have raised : (spec.issues catalogue value).outcome {} =
      .ok ([second, tenth].mergeSort (fun a b => textsLe a.sortKey b.sortKey)) := rfl
  rw [raised, sorted]

end Value

end RecordSchema
