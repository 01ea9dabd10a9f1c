import RecordSchema.Proofs.Value.Keys

namespace RecordSchema

/-- What is asked of a list part by part is asked of all its parts. -/
theorem forall_mem_of_clauses (holds : List α → Prop) {each : α → Prop} (none : holds [])
    (more : ∀ first rest, holds (first :: rest) ↔ each first ∧ holds rest) {parts : List α} :
    holds parts ↔ ∀ part ∈ parts, each part := by
  induction parts with
  | nil => exact iff_of_true none (List.forall_mem_nil each)
  | cons first rest induction => rw [more, induction, List.forall_mem_cons]

namespace Entries

/-! Entries of a sort, and entries around one of them. -/

def Hold (sort : Value → Prop) (entries : Entries) : Prop :=
  ∀ entry ∈ entries, sort entry.2

section Hold

variable {sort : Value → Prop} {entries lower upper : Entries}

theorem Hold.nil : Hold sort [] :=
  fun _ among => absurd among List.not_mem_nil

theorem hold_cons {entry : Value × Value} :
    Hold sort (entry :: entries) ↔ sort entry.2 ∧ entries.Hold sort :=
  List.forall_mem_cons

theorem Hold.imp {wider : Value → Prop} (holds : entries.Hold sort)
    (wide : ∀ value, sort value → wider value) : entries.Hold wider :=
  fun entry among => wide entry.2 (holds entry among)

theorem Hold.insert (holds : entries.Hold sort) (key : Value) {value : Value}
    (given : sort value) : Hold sort (entries.insert key value) := by
  induction entries with
  | nil => exact List.forall_mem_singleton.mpr given
  | cons entry rest induction =>
      obtain ⟨first, held⟩ := entry
      have both := List.forall_mem_cons.mp holds
      rw [Entries.insert]
      split
      · exact List.forall_mem_cons.mpr ⟨given, both.2⟩
      · exact List.forall_mem_cons.mpr ⟨both.1, induction both.2⟩

theorem Hold.merge (lowers : lower.Hold sort) (uppers : upper.Hold sort) :
    Hold sort (Entries.merge lower upper) := by
  induction upper generalizing lower with
  | nil => exact lowers
  | cons entry rest induction =>
      have both := List.forall_mem_cons.mp uppers
      exact induction (lowers.insert entry.1 both.1) both.2

theorem Hold.filter (holds : entries.Hold sort) (keep : Value × Value → Bool) :
    Hold sort (List.filter keep entries) :=
  fun entry member => holds entry (List.mem_filter.mp member).1

theorem Hold.erase (holds : entries.Hold sort) (name : String) :
    Hold sort (entries.erase name) :=
  holds.filter _

theorem Hold.get? (holds : entries.Hold sort) {name : String} {value : Value}
    (found : entries.get? name = some value) : sort value := by
  obtain ⟨entry, first, rfl⟩ := Option.map_eq_some_iff.mp found
  exact holds entry (List.mem_of_find?_eq_some first)

end Hold

/-! ### One entry among others -/

section Hole

variable {before after : Entries} {name other : String}

theorem get?_eq_none {entries : Entries} :
    entries.get? name = none ↔ .text name ∉ entries.map Prod.fst := by
  rw [Entries.get?, Entries.find?, Option.map_eq_none_iff, List.find?_eq_none, List.mem_map]
  constructor
  · rintro none ⟨entry, member, key⟩
    exact none entry member ((Value.eqv_text_left _ _).mpr key)
  · intro absent entry member equal
    exact absent ⟨entry, member, (Value.eqv_text_left _ _).mp equal⟩

theorem get?_hole (first : before.get? name = none) (value : Value) (after : Entries) :
    Entries.get? (before ++ (.text name, value) :: after) name = some value := by
  rw [Entries.get?, Entries.find?, Option.map_eq_none_iff] at first
  rw [Entries.get?, Entries.find?, List.find?_append, first, Option.none_or]
  exact get?_cons_self _ _ _

theorem get?_hole_of_ne (differs : name ≠ other) (before : Entries) (value : Value)
    (after : Entries) :
    Entries.get? (before ++ (.text name, value) :: after) other =
      Entries.get? (before ++ after) other := by
  have unequal : (Value.text other).eqv (.text name) = false := by
    simpa [Bool.eq_false_iff] using differs.symm
  simp only [Entries.get?, Entries.find?, List.find?_append, List.find?_cons, unequal]

theorem contains_hole (before : Entries) (key : Value) (value further : Value) (after : Entries)
    (name : String) :
    Entries.contains (before ++ (key, value) :: after) name =
      Entries.contains (before ++ (key, further) :: after) name := by
  simp only [Entries.contains, Entries.get?, Entries.find?, List.find?_append, List.find?_cons,
    Option.isSome_map, Option.isSome_or]
  split <;> rfl

theorem erase_append (before after : Entries) (name : String) :
    Entries.erase (before ++ after) name = before.erase name ++ after.erase name :=
  List.filter_append before after

theorem hidden_congr {entries others : Entries}
    (same : contains others "items" = contains entries "items") (kind : MapKind) :
    hidden kind others = hidden kind entries := by
  rw [hidden, same, hidden]

theorem erase_hole (before : Entries) (value : Value) (after : Entries) (name : String) :
    Entries.erase (before ++ (.text name, value) :: after) name =
      Entries.erase (before ++ after) name := by
  simp [Entries.erase, List.filter_append]

theorem erase_hole_of_ne (differs : name ≠ other) (before : Entries) (value : Value)
    (after : Entries) :
    Entries.erase (before ++ (.text name, value) :: after) other =
      before.erase other ++ (.text name, value) :: after.erase other := by
  have unequal : (Value.text other).eqv (.text name) = false := by
    simpa [Bool.eq_false_iff] using differs.symm
  rw [erase_append, Entries.erase, Entries.erase, List.filter_cons, unequal]
  rfl

theorem erase_comm (entries : Entries) (name other : String) :
    (entries.erase name).erase other = (entries.erase other).erase name := by
  simp only [Entries.erase, List.filter_filter, Bool.and_comm]

@[simp] theorem get?_erase_self (entries : Entries) (name : String) :
    (entries.erase name).get? name = none := by
  refine get?_eq_none.mpr (fun among => ?_)
  obtain ⟨entry, member, key⟩ := List.mem_map.mp among
  have kept := (List.mem_filter.mp member).2
  rw [(Value.eqv_text_left _ _).mpr key] at kept
  exact Bool.false_ne_true kept

@[simp] theorem erase_erase_self (entries : Entries) (name : String) :
    (entries.erase name).erase name = entries.erase name := by
  simp only [Entries.erase, List.filter_filter, Bool.and_self]

theorem get?_erase_of_none (first : before.get? name = none) (other : String) :
    (before.erase other).get? name = none :=
  get?_eq_none.mpr (fun among =>
    get?_eq_none.mp first ((List.filter_sublist.map Prod.fst).subset among))

theorem get?_erase_of_ne (differs : name ≠ other) (entries : Entries) :
    (entries.erase other).get? name = entries.get? name := by
  unfold Entries.get? Entries.find? Entries.erase
  rw [List.find?_filter]
  congr 2
  funext entry
  by_cases same : entry.1 = .text name
  · have unequal : (Value.text other).eqv entry.1 = false := by
      rw [same]
      simpa [Bool.eq_false_iff] using differs.symm
    simp [unequal]
  · have unequal : (Value.text name).eqv entry.1 = false :=
      Bool.eq_false_iff.mpr (mt (Value.eqv_text_left _ _).mp same)
    simp [unequal]

end Hole

/-! ### Erasing from laid layers -/

theorem erase_cons (key value : Value) (rest : Entries) (name : String) :
    Entries.erase ((key, value) :: rest) name =
      if (Value.text name).eqv key then rest.erase name
      else (key, value) :: rest.erase name := by
  rw [Entries.erase, List.filter_cons]
  cases (Value.text name).eqv key <;> rfl

theorem erase_insert_self (entries : Entries) (name : String) (value : Value) :
    (entries.insert (.text name) value).erase name = entries.erase name := by
  induction entries with
  | nil => rw [Entries.insert, erase_cons, if_pos ((Value.eqv_text_left _ _).mpr rfl)]
  | cons entry rest induction =>
      obtain ⟨key, held⟩ := entry
      rw [Entries.insert]
      split
      · next same => rw [erase_cons, erase_cons, if_pos same, if_pos same]
      · rw [erase_cons, erase_cons, induction]

theorem erase_insert_of_ne {key : Value} {name : String} (differs : key ≠ .text name)
    (entries : Entries) (value : Value) :
    (entries.insert key value).erase name = (entries.erase name).insert key value := by
  have kept : ¬ (Value.text name).eqv key = true :=
    fun equal => differs ((Value.eqv_text_left _ _).mp equal)
  induction entries with
  | nil =>
      rw [Entries.insert, erase_cons, if_neg kept]
      rfl
  | cons entry rest induction =>
      obtain ⟨first, held⟩ := entry
      by_cases erased : (Value.text name).eqv first = true
      · have other : ¬ key.eqv first = true := by
          rw [(Value.eqv_text_left _ _).mp erased, Value.eqv_text_right]
          exact differs
        rw [Entries.insert, if_neg other, erase_cons, if_pos erased, erase_cons, if_pos erased,
          induction]
      · rw [Entries.insert, erase_cons, if_neg erased, Entries.insert]
        split
        · rw [erase_cons, if_neg erased]
        · rw [erase_cons, if_neg erased, induction]

theorem erase_merge (lower upper : Entries) (name : String) :
    (merge lower upper).erase name = merge (lower.erase name) (upper.erase name) := by
  induction upper generalizing lower with
  | nil => rfl
  | cons entry rest induction =>
      obtain ⟨key, value⟩ := entry
      have later := induction (lower.insert key value)
      rw [erase_cons]
      by_cases erased : (Value.text name).eqv key = true
      · rw [if_pos erased]
        rw [(Value.eqv_text_left _ _).mp erased, erase_insert_self] at later
        rw [(Value.eqv_text_left _ _).mp erased]
        exact later
      · have differs : key ≠ .text name := fun same =>
          erased ((Value.eqv_text_left _ _).mpr same)
        rw [if_neg erased]
        rw [erase_insert_of_ne differs] at later
        exact later

end Entries

/-! ### Values of a sort throughout -/

mutual
/-- The value is of the sort, and so is everything in its lists, tuples and mappings. -/
def Value.Every (sort : Value → Prop) : Value → Prop
  | .list items => sort (.list items) ∧ itemsEvery sort items
  | .tuple items => sort (.tuple items) ∧ itemsEvery sort items
  | .map kind entries => sort (.map kind entries) ∧ entriesEvery sort entries
  | value => sort value
termination_by structural value => value

def itemsEvery (sort : Value → Prop) : List Value → Prop
  | [] => True
  | item :: items => item.Every sort ∧ itemsEvery sort items
termination_by structural items => items

def entriesEvery (sort : Value → Prop) : List (Value × Value) → Prop
  | [] => True
  | (_, value) :: rest => value.Every sort ∧ entriesEvery sort rest
termination_by structural entries => entries
end

section Every

variable {sort wider : Value → Prop}

theorem itemsEvery_iff {items : List Value} :
    itemsEvery sort items ↔ ∀ item ∈ items, item.Every sort :=
  forall_mem_of_clauses (itemsEvery sort) trivial (fun _ _ => .rfl)

theorem entriesEvery_iff {entries : Entries} :
    entriesEvery sort entries ↔ entries.Hold (Value.Every sort) :=
  forall_mem_of_clauses (entriesEvery sort) trivial (fun _ _ => .rfl)

theorem Value.Every.here {value : Value} (every : value.Every sort) : sort value := by
  cases value with
  | list | tuple | map => exact every.1
  | _ => exact every

theorem Value.Every.items {value : Value} {items : List Value} (every : value.Every sort)
    (sequence : value.items? = some items) : ∀ item ∈ items, item.Every sort := by
  rcases Value.items?_eq_some.mp sequence with rfl | rfl
  · exact itemsEvery_iff.mp every.2
  · exact itemsEvery_iff.mp every.2

theorem Value.Every.entries {value : Value} {entries : Entries} (every : value.Every sort)
    (held : value.entries? = some entries) : entries.Hold (Value.Every sort) := by
  obtain ⟨kind, rfl⟩ := Value.entries?_eq_some.mp held
  exact entriesEvery_iff.mp every.2

mutual
theorem Value.every_mono (wide : ∀ value, sort value → wider value) :
    (value : Value) → value.Every sort → value.Every wider
  | .list items, every | .tuple items, every =>
      ⟨wide _ every.1, itemsEvery_mono wide items every.2⟩
  | .map _ entries, every => ⟨wide _ every.1, entriesEvery_mono wide entries every.2⟩
  | .null, every | .bool _, every | .number _, every | .text _, every | .bytes _ _, every
  | .date _ _ _, every | .moment _, every | .set _ _, every | .providerClass _, every
  | .provider _ _, every | .descriptor _, every | .field _, every | .options _, every
  | .other _, every => wide _ every
termination_by structural value => value

theorem itemsEvery_mono (wide : ∀ value, sort value → wider value) :
    (items : List Value) → itemsEvery sort items → itemsEvery wider items
  | [], _ => trivial
  | item :: items, every => ⟨item.every_mono wide every.1, itemsEvery_mono wide items every.2⟩
termination_by structural items => items

theorem entriesEvery_mono (wide : ∀ value, sort value → wider value) :
    (entries : List (Value × Value)) → entriesEvery sort entries → entriesEvery wider entries
  | [], _ => trivial
  | (_, value) :: rest, every =>
      ⟨value.every_mono wide every.1, entriesEvery_mono wide rest every.2⟩
termination_by structural entries => entries
end

end Every

end RecordSchema
