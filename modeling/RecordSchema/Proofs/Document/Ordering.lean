import Mathlib.Data.List.Sort
import RecordSchema.Proofs.Document.Rearrangement

namespace RecordSchema

/-! Issues in order.  Places are ordered in one line, and issues of one place keep their
order, so the sorted issues are settled by what is raised at each place. -/

/-! ### The order of places -/

theorem textsLe_total (first second : List String) :
    textsLe first second = true ∨ textsLe second first = true := by
  induction first generalizing second with
  | nil => exact .inl rfl
  | cons a rest induction =>
      cases second with
      | nil => exact .inr rfl
      | cons b others =>
          rw [textsLe, textsLe]
          by_cases same : a = b
          · rw [if_pos same, if_pos same.symm]
            exact induction others
          · rw [if_neg same, if_neg (Ne.symm same), decide_eq_true_eq, decide_eq_true_eq]
            exact lt_or_gt_of_ne same

theorem textsLe_trans {first second third : List String} (before : textsLe first second = true)
    (after : textsLe second third = true) : textsLe first third = true := by
  induction first generalizing second third with
  | nil => rfl
  | cons a rest induction =>
      cases second with
      | nil => exact absurd before Bool.false_ne_true
      | cons b others =>
          cases third with
          | nil => exact absurd after Bool.false_ne_true
          | cons c further =>
              rw [textsLe] at before after ⊢
              by_cases left : a = b
              · subst left
                rw [if_pos rfl] at before
                by_cases right : a = c
                · subst right
                  rw [if_pos rfl] at after ⊢
                  exact induction before after
                · rwa [if_neg right] at after ⊢
              · rw [if_neg left, decide_eq_true_eq] at before
                by_cases right : b = c
                · subst right
                  rw [if_neg left]
                  exact decide_eq_true before
                · rw [if_neg right, decide_eq_true_eq] at after
                  have less := before.trans after
                  rw [if_neg (ne_of_lt less)]
                  exact decide_eq_true less

theorem textsLe_antisymm {first second : List String} (before : textsLe first second = true)
    (after : textsLe second first = true) : first = second := by
  induction first generalizing second with
  | nil =>
      cases second with
      | nil => rfl
      | cons b others => exact absurd after Bool.false_ne_true
  | cons a rest induction =>
      cases second with
      | nil => exact absurd before Bool.false_ne_true
      | cons b others =>
          rw [textsLe] at before after
          by_cases same : a = b
          · rw [if_pos same] at before
            rw [if_pos same.symm] at after
            rw [same, induction before after]
          · rw [if_neg same, decide_eq_true_eq] at before
            rw [if_neg (Ne.symm same), decide_eq_true_eq] at after
            exact absurd (before.trans after) (lt_irrefl a)

/-! ### Stable sorting -/

section Sorting

variable {α β : Type} [DecidableEq β] {key : α → β} {le : β → β → Bool} {items others : List α}

/-- Lists sorted by a key are one if the items of each key are the same, in the same order. -/
theorem eq_of_sorted_of_classes (antisymm : ∀ a b, le a b = true → le b a = true → a = b)
    (refl : ∀ a, le a a = true)
    (sorted : items.Pairwise (fun a b => le (key a) (key b) = true))
    (others_sorted : others.Pairwise (fun a b => le (key a) (key b) = true))
    (classes : ∀ place, items.filter (fun item => key item = place) =
      others.filter (fun item => key item = place)) : items = others := by
  -- The first items have least keys, so they are of one key, and first of its class.
  induction items generalizing others with
  | nil =>
      cases others with
      | nil => rfl
      | cons first rest =>
          have given := classes (key first)
          rw [List.filter_nil, List.filter_cons_of_pos (by simp)] at given
          exact absurd given.symm (List.cons_ne_nil _ _)
  | cons item rest induction =>
      cases others with
      | nil =>
          have given := classes (key item)
          rw [List.filter_nil, List.filter_cons_of_pos (by simp)] at given
          exact absurd given (List.cons_ne_nil _ _)
      | cons other further =>
          obtain ⟨least, sorted⟩ := List.pairwise_cons.mp sorted
          obtain ⟨others_least, further_sorted⟩ := List.pairwise_cons.mp others_sorted
          have among {one : α} {first second : List α} (member : one ∈ first)
              (same : first.filter (fun item => key item = key one) =
                second.filter (fun item => key item = key one)) : one ∈ second := by
            have kept : one ∈ first.filter (fun item => key item = key one) :=
              List.mem_filter.mpr ⟨member, by simp⟩
            rw [same] at kept
            exact (List.mem_filter.mp kept).1
          have below : le (key other) (key item) = true := by
            rcases List.mem_cons.mp (among (.head rest) (classes (key item))) with rfl | member
            · exact refl _
            · exact others_least item member
          have above : le (key item) (key other) = true := by
            rcases List.mem_cons.mp (among (.head further) (classes (key other)).symm) with
              rfl | member
            · exact refl _
            · exact least other member
          have same : key item = key other := antisymm _ _ above below
          have heads := classes (key item)
          rw [List.filter_cons_of_pos (by simp), List.filter_cons_of_pos (by simp [same])] at heads
          obtain rfl : item = other := (List.cons.inj heads).1
          refine congrArg (item :: ·) (induction sorted further_sorted (fun place => ?_))
          have tails := classes place
          by_cases here : key item = place
          · rw [List.filter_cons_of_pos (by simp [here]),
              List.filter_cons_of_pos (by simp [here])] at tails
            exact (List.cons.inj tails).2
          · rwa [List.filter_cons_of_neg (by simp [here]),
              List.filter_cons_of_neg (by simp [here])] at tails

variable (total : ∀ a b, le a b = true ∨ le b a = true)
  (trans : ∀ a b c, le a b = true → le b c = true → le a c = true)
include total trans

/-- Sorting leaves the items of one key in their order. -/
theorem filter_mergeSort (place : β) :
    (items.mergeSort (fun a b => le (key a) (key b))).filter (fun item => key item = place) =
      items.filter (fun item => key item = place) := by
  let kept (item : α) : Bool := key item = place
  let order (a b : α) : Bool := le (key a) (key b)
  have transitive (a b c : α) : order a b = true → order b c = true → order a c = true :=
    trans (key a) (key b) (key c)
  have connected (a b : α) : (order a b || order b a) = true :=
    Bool.or_eq_true_iff.mpr (total (key a) (key b))
  have within : (items.filter kept).Sublist (items.mergeSort order) := by
    refine List.sublist_mergeSort transitive connected ?_ List.filter_sublist
    refine List.pairwise_of_forall_mem_list ?_
    intro a first b second
    have left : key a = place := by simpa [kept] using (List.mem_filter.mp first).2
    have right : key b = place := by simpa [kept] using (List.mem_filter.mp second).2
    change le (key a) (key b) = true
    rw [left, right]
    exact (total place place).elim id id
  have again := within.filter kept
  simp only [List.filter_filter, Bool.and_self] at again
  have counted := ((List.mergeSort_perm items order).filter kept).length_eq
  exact (again.eq_of_length counted.symm).symm

theorem mergeSort_eq_of_classes (antisymm : ∀ a b, le a b = true → le b a = true → a = b)
    (classes : ∀ place, items.filter (fun item => key item = place) =
      others.filter (fun item => key item = place)) :
    items.mergeSort (fun a b => le (key a) (key b)) =
      others.mergeSort (fun a b => le (key a) (key b)) := by
  let order (a b : α) : Bool := le (key a) (key b)
  have sorted (items : List α) : (items.mergeSort order).Pairwise (fun a b => order a b = true) :=
    List.pairwise_mergeSort (fun a b c => trans (key a) (key b) (key c))
      (fun a b => Bool.or_eq_true_iff.mpr (total (key a) (key b))) items
  refine eq_of_sorted_of_classes antisymm (fun a => (total a a).elim id id) (sorted items)
    (sorted others) (fun place => ?_)
  rw [filter_mergeSort total trans, filter_mergeSort total trans, classes]

end Sorting

/-! ### Issues at each place -/

/-- Both lists have the same issues at each place, in the same order. -/
def Issue.Alike (first second : List Issue) : Prop :=
  ∀ place : List String, first.filter (fun issue => issue.sortKey = place) =
    second.filter (fun issue => issue.sortKey = place)

namespace Issue.Alike

variable {first second third fourth : List Issue}

theorem refl (issues : List Issue) : Alike issues issues :=
  fun _ => rfl

theorem append (head : Alike first second) (tail : Alike third fourth) :
    Alike (first ++ third) (second ++ fourth) := by
  intro place
  rw [List.filter_append, List.filter_append, head place, tail place]

theorem filter_below (issues : List Issue) (step : Value) (place : List String) :
    (issues.map (Issue.below step)).filter (fun issue => issue.sortKey = place) =
      ((issues.filter (fun issue => step.display :: issue.sortKey = place)).map
        (Issue.below step)) := by
  rw [List.filter_map]
  rfl

theorem below (same : Alike first second) (step : Value) :
    Alike (first.map (Issue.below step)) (second.map (Issue.below step)) := by
  intro place
  rw [filter_below, filter_below]
  cases place with
  | nil => simp
  | cons head rest =>
      by_cases here : step.display = head
      · simp only [List.cons.injEq, here, true_and]
        rw [same rest]
      · simp [here]

theorem flatMap {items : List α} {raised further : α → List Issue}
    (each : ∀ item ∈ items, Alike (raised item) (further item)) :
    Alike (items.flatMap raised) (items.flatMap further) := by
  induction items with
  | nil => exact refl []
  | cons item rest induction =>
      obtain ⟨head, tail⟩ := List.forall_mem_cons.mp each
      rw [List.flatMap_cons, List.flatMap_cons]
      exact head.append (induction tail)

/-- The order of items that raise issues at different places does not matter. -/
theorem flatMap_of_perm {items others : List α} {raised : α → List Issue}
    (order : items.Perm others)
    (apart : items.Pairwise (fun a b => ∀ issue ∈ raised a, ∀ other ∈ raised b,
      issue.sortKey ≠ other.sortKey)) :
    Alike (items.flatMap raised) (others.flatMap raised) := by
  induction order with
  | nil => exact refl []
  | cons item _ induction =>
      rw [List.flatMap_cons, List.flatMap_cons]
      exact (refl _).append (induction (List.pairwise_cons.mp apart).2)
  | swap a b rest =>
      have unequal := (List.pairwise_cons.mp apart).1 a (.head _)
      simp only [List.flatMap_cons, ← List.append_assoc]
      refine append (fun place => ?_) (refl _)
      rw [List.filter_append, List.filter_append]
      -- One of the two raises nothing at the place.
      cases here : (raised a).filter (fun issue => issue.sortKey = place) with
      | nil => rw [List.append_nil, List.nil_append]
      | cons issue _ =>
          have member : issue ∈ (raised a).filter (fun issue => issue.sortKey = place) := by
            rw [here]
            exact .head _
          have located : issue.sortKey = place := by simpa using (List.mem_filter.mp member).2
          have none : (raised b).filter (fun issue => issue.sortKey = place) = [] := by
            rw [List.filter_eq_nil_iff]
            intro other among same
            have same : other.sortKey = place := by simpa using same
            exact unequal other among issue (List.mem_filter.mp member).1
              (same.trans located.symm)
          rw [none, List.append_nil, List.nil_append]
  | trans before _ first second =>
      have moved := (before.pairwise_iff (fun {a b} unequal issue among other member same =>
        unequal other member issue among same.symm)).mp apart
      exact fun place => (first apart place).trans (second moved place)

end Issue.Alike

/-! ### Issues of rearranged documents -/

namespace Document

theorem isDeclared_of_perm {declared others : List String} (order : declared.Perm others)
    (key : Value) : isDeclared declared key = isDeclared others key :=
  order.any_eq

theorem closedIssues_congr {declared others : List String}
    (same : ∀ key, isDeclared declared key = isDeclared others key) (entries : Entries) :
    closedIssues declared entries = closedIssues others entries := by
  unfold closedIssues
  simp only [same]

theorem declaredKeys_perm {document other : Document} (same : clausesRearrange document other) :
    document.declaredKeys.Perm other.declaredKeys := by
  induction document generalizing other with
  | nil =>
      cases same
      rfl
  | cons clause rest induction =>
      obtain ⟨inside, tail, head, parts, rfl⟩ := same
      unfold declaredKeys
      rw [List.flatMap_cons, List.flatMap_cons]
      refine List.Perm.append ?_ (induction parts)
      cases clause with
      | properties properties =>
          obtain ⟨middle, others, _, listed, order, rfl⟩ := head
          have keys := order.map Prod.fst
          rwa [map_key_of_rearrange listed] at keys
      | items clauses =>
          obtain ⟨inner, _, _, rfl⟩ := head
          rfl
      | _ =>
          cases head
          rfl

end Document

/-- What one property raises. -/
def propertyIssue (entries : Entries) (property : String × Document) : List Issue :=
  match entries.get? property.1 with
  | some value => (property.2.rawIssues value).map (Issue.below (.text property.1))
  | none => []

theorem propertyIssues_eq_flatMap (properties : List (String × Document)) (entries : Entries) :
    propertyIssues properties entries = properties.flatMap (propertyIssue entries) := by
  induction properties with
  | nil => rfl
  | cons property rest induction =>
      rw [propertyIssues, induction]
      rfl

theorem sortKey_of_propertyIssue {entries : Entries} {property : String × Document}
    {issue : Issue} (among : issue ∈ propertyIssue entries property) :
    ∃ rest, issue.sortKey = property.1 :: rest := by
  unfold propertyIssue at among
  split at among
  · obtain ⟨inner, _, rfl⟩ := List.mem_map.mp among
    exact ⟨inner.sortKey, rfl⟩
  · exact absurd among List.not_mem_nil

theorem propertyIssues_of_perm {properties others : List (String × Document)}
    (order : properties.Perm others) (distinct : (properties.map Prod.fst).Nodup)
    (entries : Entries) :
    Issue.Alike (propertyIssues properties entries) (propertyIssues others entries) := by
  rw [propertyIssues_eq_flatMap, propertyIssues_eq_flatMap]
  refine .flatMap_of_perm order ((List.pairwise_map.mp distinct).imp ?_)
  intro a b unequal issue among other member same
  obtain ⟨rest, located⟩ := sortKey_of_propertyIssue among
  obtain ⟨further, placed⟩ := sortKey_of_propertyIssue member
  rw [located, placed] at same
  exact unequal (List.cons.inj same).1

mutual
theorem Clause.Rearranges.issues {declared others : List String}
    (same : ∀ key, Document.isDeclared declared key = Document.isDeclared others key) :
    (clause : Clause) → {other : Clause} → clause.Rearranges other → (value : Value) →
      Issue.Alike (clause.issues declared value) (other.issues others value)
  | .properties properties, other, rearranged, value => by
      obtain ⟨inside, further, distinct, parts, order, rfl⟩ := rearranged
      rw [← map_key_of_rearrange parts] at distinct
      rw [Clause.issues, Clause.issues]
      cases value.object? with
      | none => exact .refl []
      | some entries =>
          intro place
          exact (propertyIssues_rearranged properties parts entries place).trans
            (propertyIssues_of_perm order distinct entries place)
  | .items clauses, other, rearranged, value => by
      obtain ⟨inside, _, parts, rfl⟩ := rearranged
      cases value with
      | list items =>
          rw [Clause.issues, Clause.issues]
          refine .flatMap (fun item _ => .below ?_ _)
          exact clauseIssues_rearranged
            (Document.isDeclared_of_perm (Document.declaredKeys_perm parts)) clauses parts item.1
      | _ => exact .refl []
  | .closed, _, rearranged, value => by
      cases rearranged
      rw [Clause.issues, Clause.issues]
      cases value.object? with
      | none => exact .refl []
      | some entries =>
          dsimp only
          rw [Document.closedIssues_congr same]
          exact .refl _
  | .type _, _, rearranged, value | .minimum _, _, rearranged, value
  | .maximum _, _, rearranged, value | .minLength _, _, rearranged, value
  | .maxLength _, _, rearranged, value | .minItems _, _, rearranged, value
  | .maxItems _, _, rearranged, value | .enum _, _, rearranged, value
  | .format .email, _, rearranged, value | .format .datetime, _, rearranged, value
  | .required _, _, rearranged, value => by
      cases rearranged
      cases value <;> exact .refl _
termination_by structural clause => clause

theorem clauseIssues_rearranged {declared others : List String}
    (same : ∀ key, Document.isDeclared declared key = Document.isDeclared others key) :
    (document : List Clause) → {other : Document} → clausesRearrange document other →
      (value : Value) →
        Issue.Alike (clauseIssues declared document value) (clauseIssues others other value)
  | [], _, rearranged, _ => by
      cases rearranged
      exact .refl []
  | clause :: rest, _, ⟨inside, tail, head, parts, rfl⟩, value =>
      (head.issues same clause value).append (clauseIssues_rearranged same rest parts value)
termination_by structural document => document

theorem propertyIssues_rearranged :
    (properties : List (String × List Clause)) → {others : List (String × Document)} →
      propertiesRearrange properties others → (entries : Entries) →
        Issue.Alike (propertyIssues properties entries) (propertyIssues others entries)
  | [], _, parts, _ => by
      cases parts
      exact .refl []
  | (key, clauses) :: rest, _, ⟨inside, tail, _, head, parts, rfl⟩, entries => by
      rw [propertyIssues, propertyIssues]
      refine .append ?_ (propertyIssues_rearranged rest parts entries)
      cases entries.get? key with
      | none => exact .refl []
      | some value =>
          exact (clauseIssues_rearranged
            (Document.isDeclared_of_perm (Document.declaredKeys_perm head)) clauses head
            value).below _
termination_by structural properties => properties
end

/-- A rearranged document raises the same issues in the same order. -/
theorem Document.Rearranges.issues {document other : Document}
    (same : document.Rearranges other) (value : Value) :
    document.issues value = other.issues value := by
  have alike : Issue.Alike (document.rawIssues value) (other.rawIssues value) :=
    clauseIssues_rearranged (isDeclared_of_perm (declaredKeys_perm same.2)) document same.2 value
  exact mergeSort_eq_of_classes textsLe_total (fun _ _ _ => textsLe_trans)
    (fun _ _ => textsLe_antisymm) alike

end RecordSchema
