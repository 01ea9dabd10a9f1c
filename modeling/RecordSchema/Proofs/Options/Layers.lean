import Mathlib.Data.List.Nodup
import RecordSchema.Options.Reading
import RecordSchema.Proofs.Value.Keys

namespace RecordSchema

/-! Options laid over one another.  What is laid over wins, names keep the place where they
were set first, and a record that was read can stand for the options that it was read from. -/

namespace Arguments

theorem mem_names_insert {given : Arguments} {name other : String} {value : Value} :
    other ∈ (insert given name value).map Prod.fst ↔
      other = name ∨ other ∈ given.map Prod.fst := by
  induction given with
  | nil => simp [insert]
  | cons argument rest induction =>
      obtain ⟨first, held⟩ := argument
      rw [insert]
      split
      · next same => simp [same]
      · simp only [List.map_cons, List.mem_cons, induction]
        exact or_left_comm

theorem mem_names_merge {lower upper : Arguments} {name : String} :
    name ∈ (merge lower upper).map Prod.fst ↔
      name ∈ upper.map Prod.fst ∨ name ∈ lower.map Prod.fst := by
  induction upper generalizing lower with
  | nil => simp [merge]
  | cons argument rest induction =>
      change name ∈ (merge (insert lower argument.1 argument.2) rest).map Prod.fst ↔ _
      rw [induction, mem_names_insert, List.map_cons, List.mem_cons]
      exact or_left_comm.trans or_assoc.symm

/-- Entries that cannot be arguments have a key that is no text or reserved. -/
theorem ofEntries?_eq_none {entries : Entries} :
    ofEntries? entries = none ↔
      ∃ entry ∈ entries, entry.1 = .text reservedName ∨ entry.1.isText = false := by
  induction entries with
  | nil => simp [ofEntries?]
  | cons entry rest induction =>
      obtain ⟨key, value⟩ := entry
      cases key with
      | text name =>
          by_cases reserved : name = reservedName
          · simp [ofEntries?, reserved]
          · simp [ofEntries?, reserved, induction, Value.isText]
      | _ => simp [ofEntries?, Value.isText]

theorem ofEntries?_eq_some {entries : Entries} {given : Arguments}
    (read : ofEntries? entries = some given) :
    entries = given.map (fun argument => (.text argument.1, argument.2)) := by
  induction entries generalizing given with
  | nil =>
      cases read
      rfl
  | cons entry rest induction =>
      obtain ⟨key, value⟩ := entry
      cases key with
      | text name =>
          rw [ofEntries?] at read
          split at read
          · exact nomatch read
          · obtain ⟨others, tail, rfl⟩ := Option.map_eq_some_iff.mp read
            rw [induction tail]
            rfl
      | _ => exact nomatch read

end Arguments

namespace OptionRecord

/-- A record takes no option that it does not declare. -/
theorem read_undeclared {policy : NullableAny} {kind : RecordKind} {given : Arguments}
    {name : String} (named : name ∈ given.map Prod.fst) (foreign : name ∉ kind.declared) :
    ∃ complaints, read policy kind given = .refused complaints := by
  obtain ⟨argument, among, rfl⟩ := List.mem_map.mp named
  have undeclared : given.undeclared kind.declared ≠ [] := by
    simp only [Arguments.undeclared, ne_eq, List.map_eq_nil_iff, List.filter_eq_nil_iff]
    intro none
    exact none argument among (by simpa using foreign)
  unfold read Checked.alongside
  cases all : (given.declaredOptions kind).complaints ++ given.undeclared kind.declared with
  | nil => exact absurd (List.append_eq_nil_iff.mp all).2 undeclared
  | cons complaint complaints => exact ⟨_, rfl⟩

end OptionRecord

/-! ### Merging -/

namespace Arguments

def Distinct (given : Arguments) : Prop :=
  (given.map Prod.fst).Nodup

instance (given : Arguments) : Decidable given.Distinct :=
  inferInstanceAs (Decidable (given.map Prod.fst).Nodup)

theorem merge_cons (lower : Arguments) (argument : String × Value) (upper : Arguments) :
    merge lower (argument :: upper) = merge (insert lower argument.1 argument.2) upper := rfl

theorem Distinct.insert {given : Arguments} (distinct : given.Distinct) (name : String)
    (value : Value) : (Arguments.insert given name value).Distinct := by
  unfold Distinct at distinct ⊢
  induction given with
  | nil => simp [Arguments.insert]
  | cons argument rest induction =>
      obtain ⟨first, held⟩ := argument
      rw [List.map_cons, List.nodup_cons] at distinct
      rw [Arguments.insert]
      split
      · exact List.nodup_cons.mpr distinct
      · next differs =>
          rw [List.map_cons, List.nodup_cons, mem_names_insert, not_or]
          exact ⟨⟨differs, distinct.1⟩, induction distinct.2⟩

theorem Distinct.merge {lower : Arguments} (distinct : lower.Distinct) (upper : Arguments) :
    (Arguments.merge lower upper).Distinct := by
  induction upper generalizing lower with
  | nil => exact distinct
  | cons argument rest induction => exact induction (distinct.insert _ _)

theorem insert_of_not_mem {given : Arguments} {name : String}
    (absent : name ∉ given.map Prod.fst) (value : Value) :
    insert given name value = given ++ [(name, value)] := by
  induction given with
  | nil => rfl
  | cons argument rest induction =>
      obtain ⟨first, held⟩ := argument
      rw [List.map_cons, List.mem_cons, not_or] at absent
      rw [insert, if_neg (Ne.symm absent.1), induction absent.2, List.cons_append]

theorem merge_eq_append {lower upper : Arguments} (distinct : (lower ++ upper).Distinct) :
    merge lower upper = lower ++ upper := by
  induction upper generalizing lower with
  | nil => simp [merge]
  | cons argument rest induction =>
      have absent : argument.1 ∉ lower.map Prod.fst := by
        rw [Distinct, List.map_append, List.nodup_append] at distinct
        intro among
        exact distinct.2.2 _ among _ (List.mem_cons_self) rfl
      have split : lower ++ argument :: rest = lower ++ [argument] ++ rest := by simp
      rw [merge_cons, insert_of_not_mem absent, split]
      rw [split] at distinct
      exact induction distinct

theorem nil_merge {given : Arguments} (distinct : given.Distinct) : merge [] given = given :=
  merge_eq_append distinct

theorem get?_insert (given : Arguments) (name other : String) (value : Value) :
    (insert given name value).get? other =
      if name = other then some value else given.get? other := by
  induction given with
  | nil =>
      by_cases same : name = other <;> simp [insert, get?, same]
  | cons argument rest induction =>
      obtain ⟨first, held⟩ := argument
      rw [insert]
      split
      · next here =>
          subst here
          by_cases same : first = other <;> simp [get?, same]
      · next differs =>
          by_cases same : first = other
          · subst same
            simp [get?, Ne.symm differs]
          · simpa [get?, same] using induction

theorem get?_cons (argument : String × Value) (rest : Arguments) (name : String) :
    get? (argument :: rest) name =
      if argument.1 = name then some argument.2 else rest.get? name := by
  by_cases same : argument.1 = name <;> simp [get?, same]

theorem get?_append (first second : Arguments) (name : String) :
    get? (first ++ second) name = (first.get? name).or (second.get? name) := by
  induction first with
  | nil => rfl
  | cons argument rest induction =>
      rw [List.cons_append, get?_cons, get?_cons]
      split
      · rfl
      · exact induction

theorem get?_eq_none {given : Arguments} {name : String} :
    given.get? name = none ↔ name ∉ given.map Prod.fst := by
  simp only [get?, Option.map_eq_none_iff, List.find?_eq_none, decide_eq_true_eq, List.mem_map,
    not_exists, not_and]

/-- What is laid over wins. -/
theorem get?_merge {upper : Arguments} (distinct : upper.Distinct) (lower : Arguments)
    (name : String) : (merge lower upper).get? name = (upper.get? name).or (lower.get? name) := by
  induction upper generalizing lower with
  | nil => rfl
  | cons argument rest induction =>
      rw [Distinct, List.map_cons, List.nodup_cons] at distinct
      rw [merge_cons, induction distinct.2, get?_insert, get?_cons]
      by_cases same : argument.1 = name
      · have absent : get? rest name = none := get?_eq_none.mpr (same ▸ distinct.1)
        simp [same, absent]
      · simp [same]

/-- The options under the names that are kept. -/
def restrict (keep : String → Bool) (given : Arguments) : Arguments :=
  given.filter (fun argument => keep argument.1)

theorem restrict_insert (keep : String → Bool) (given : Arguments) (name : String)
    (value : Value) :
    restrict keep (insert given name value) =
      if keep name then insert (restrict keep given) name value else restrict keep given := by
  induction given with
  | nil => by_cases kept : keep name <;> simp [insert, restrict, kept]
  | cons argument rest induction =>
      obtain ⟨first, held⟩ := argument
      unfold restrict at induction
      rw [insert]
      by_cases kept : keep name <;> by_cases here : first = name
      · subst here
        simp [restrict, insert, kept]
      · by_cases other : keep first <;> simp [restrict, insert, here, kept, other, induction]
      · subst here
        simp [restrict, kept]
      · by_cases other : keep first <;> simp [restrict, here, kept, other, induction]

theorem restrict_merge (keep : String → Bool) (lower upper : Arguments) :
    restrict keep (merge lower upper) = merge (restrict keep lower) (restrict keep upper) := by
  induction upper generalizing lower with
  | nil => rfl
  | cons argument rest induction =>
      rw [merge_cons, induction, restrict_insert]
      by_cases kept : keep argument.1
      · have first : restrict keep (argument :: rest) = argument :: restrict keep rest := by
          simp [restrict, kept]
        rw [first, merge_cons, if_pos kept]
      · have first : restrict keep (argument :: rest) = restrict keep rest := by
          simp [restrict, kept]
        rw [first, if_neg kept]

theorem restrict_of_not_mem {given : Arguments} {name : String}
    (absent : name ∉ given.map Prod.fst) :
    restrict (fun other => name ≠ other) given = given := by
  refine List.filter_eq_self.mpr (fun argument among => ?_)
  rw [decide_eq_true_eq]
  rintro rfl
  exact absent (List.mem_map_of_mem among)

theorem restrict_of_absent {given : Arguments} {name : String} {value : Value}
    (absent : name ∉ given.map Prod.fst) :
    restrict (fun other => name ≠ other) ((name, value) :: given) = given := by
  simpa [restrict] using restrict_of_not_mem absent

theorem Distinct.restrict {given : Arguments} (distinct : given.Distinct)
    (keep : String → Bool) : (Arguments.restrict keep given).Distinct :=
  List.Nodup.sublist (List.filter_sublist.map Prod.fst) distinct

end Arguments

namespace Entries

@[simp] theorem ofNames_nil : ofNames [] = [] := rfl

@[simp] theorem ofNames_cons (argument : String × Value) (rest : Arguments) :
    ofNames (argument :: rest) = (.text argument.1, argument.2) :: ofNames rest := rfl

theorem ofNames_injective {first second : Arguments} (same : ofNames first = ofNames second) :
    first = second := by
  refine List.map_injective_iff.mpr ?_ same
  rintro ⟨name, value⟩ ⟨name', value'⟩ equal
  simpa using equal

theorem merge_cons (lower : Entries) (entry : Value × Value) (upper : Entries) :
    merge lower (entry :: upper) = merge (lower.insert entry.1 entry.2) upper := rfl

@[simp] theorem insert_cons_self (name : String) (held value : Value) (rest : Entries) :
    insert ((.text name, held) :: rest) (.text name) value = (.text name, value) :: rest := by
  rw [insert, if_pos ((Value.eqv_text_left _ _).mpr rfl)]

theorem insert_cons_of_ne {key : Value} {name : String} (differs : key ≠ .text name)
    (held value : Value) (rest : Entries) :
    insert ((key, held) :: rest) (.text name) value =
      (key, held) :: insert rest (.text name) value := by
  rw [insert, if_neg (fun equal => differs ((Value.eqv_text_left _ _).mp equal))]

theorem insert_insert_self (entries : Entries) (name : String) (first second : Value) :
    insert (insert entries (.text name) first) (.text name) second =
      insert entries (.text name) second := by
  induction entries with
  | nil => simp [insert]
  | cons entry rest induction =>
      obtain ⟨key, held⟩ := entry
      by_cases here : key = .text name
      · subst here
        simp
      · rw [insert_cons_of_ne here, insert_cons_of_ne here, insert_cons_of_ne here, induction]

/-- Writing under two names commutes where one of them is there already. -/
theorem insert_comm {entries : Entries} {name other : String}
    (present : ∃ entry ∈ entries, entry.1 = .text name) (differs : other ≠ name)
    (value held : Value) :
    insert (insert entries (.text other) held) (.text name) value =
      insert (insert entries (.text name) value) (.text other) held := by
  have apart : Value.text other ≠ .text name := by simpa using differs
  have apart' : Value.text name ≠ .text other := apart.symm
  induction entries with
  | nil => simp at present
  | cons entry rest induction =>
      obtain ⟨key, first⟩ := entry
      by_cases here : key = .text name
      · subst here
        rw [insert_cons_of_ne apart', insert_cons_self, insert_cons_self,
          insert_cons_of_ne apart']
      · have later : ∃ entry ∈ rest, entry.1 = .text name := by simpa [here] using present
        by_cases there : key = .text other
        · subst there
          rw [insert_cons_self, insert_cons_of_ne apart, insert_cons_of_ne apart,
            insert_cons_self]
        · rw [insert_cons_of_ne there, insert_cons_of_ne here, insert_cons_of_ne here,
            insert_cons_of_ne there, induction later]

theorem present_insert (entries : Entries) (name : String) (value : Value) :
    ∃ entry ∈ insert entries (.text name) value, entry.1 = .text name := by
  induction entries with
  | nil => simp [insert]
  | cons entry rest induction =>
      obtain ⟨key, held⟩ := entry
      by_cases here : key = .text name
      · subst here
        simp
      · obtain ⟨found, among, same⟩ := induction
        rw [insert_cons_of_ne here]
        exact ⟨found, .tail _ among, same⟩

theorem present_insert_of_present {entries : Entries} {name : String}
    (present : ∃ entry ∈ entries, entry.1 = .text name) (other : String) (value : Value) :
    ∃ entry ∈ insert entries (.text other) value, entry.1 = .text name := by
  by_cases same : other = name
  · subst same
    exact present_insert entries other value
  · obtain ⟨found, among, equal⟩ := present
    refine ⟨found, ?_, equal⟩
    induction entries with
    | nil => simp at among
    | cons entry rest induction =>
        obtain ⟨key, held⟩ := entry
        by_cases here : key = .text other
        · subst here
          rw [insert_cons_self]
          rcases List.mem_cons.mp among with rfl | later
          · exact absurd equal (by simpa using same)
          · exact .tail _ later
        · rw [insert_cons_of_ne here]
          rcases List.mem_cons.mp among with rfl | later
          · exact .head _
          · exact .tail _ (induction later)

theorem insert_merge_of_present {upper : Arguments} {entries : Entries} {name : String}
    (present : ∃ entry ∈ entries, entry.1 = .text name) (absent : name ∉ upper.map Prod.fst)
    (value : Value) :
    insert (merge entries (ofNames upper)) (.text name) value =
      merge (insert entries (.text name) value) (ofNames upper) := by
  induction upper generalizing entries with
  | nil => rfl
  | cons argument rest induction =>
      rw [List.map_cons, List.mem_cons, not_or] at absent
      rw [ofNames_cons, merge_cons, merge_cons,
        induction (present_insert_of_present present _ _) absent.2,
        insert_comm present (Ne.symm absent.1)]

theorem merge_insert {upper : Arguments} (distinct : upper.Distinct)
    (entries : Entries) (name : String) (value : Value) :
    merge entries (ofNames (Arguments.insert upper name value)) =
      insert (merge entries (ofNames upper)) (.text name) value := by
  induction upper generalizing entries with
  | nil => rfl
  | cons argument rest induction =>
      obtain ⟨first, held⟩ := argument
      rw [Arguments.Distinct, List.map_cons, List.nodup_cons] at distinct
      rw [Arguments.insert]
      split
      · next same =>
          subst same
          rw [ofNames_cons, merge_cons, ofNames_cons, merge_cons,
            insert_merge_of_present (present_insert entries first held) distinct.1,
            insert_insert_self]
      · rw [ofNames_cons, merge_cons, ofNames_cons, merge_cons, induction distinct.2]

/-- Layers can be laid over one another first, or one by one. -/
theorem merge_merge {upper : Arguments} (distinct : upper.Distinct)
    (entries : Entries) (further : Arguments) :
    merge entries (ofNames (Arguments.merge upper further)) =
      merge (merge entries (ofNames upper)) (ofNames further) := by
  induction further generalizing upper with
  | nil => rfl
  | cons argument rest induction =>
      rw [Arguments.merge_cons, induction (distinct.insert _ _), merge_insert distinct,
        ofNames_cons, merge_cons]

theorem insert_ofNames (given : Arguments) (name : String) (value : Value) :
    insert (ofNames given) (.text name) value = ofNames (Arguments.insert given name value) := by
  induction given with
  | nil => rfl
  | cons argument rest induction =>
      obtain ⟨first, held⟩ := argument
      rw [Arguments.insert]
      split
      · next same =>
          subst same
          exact insert_cons_self first held value _
      · next differs =>
          have apart : Value.text first ≠ .text name := by simpa using differs
          rw [ofNames_cons, insert_cons_of_ne apart, induction, ofNames_cons]

theorem merge_ofNames (lower upper : Arguments) :
    merge (ofNames lower) (ofNames upper) = ofNames (Arguments.merge lower upper) := by
  induction upper generalizing lower with
  | nil => rfl
  | cons argument rest induction =>
      rw [ofNames_cons, merge_cons, insert_ofNames, induction, Arguments.merge_cons]

@[simp] theorem get?_ofNames (given : Arguments) (name : String) :
    Entries.get? (ofNames given) name = given.get? name := by
  induction given with
  | nil => rfl
  | cons argument rest induction =>
      rw [ofNames_cons, Arguments.get?_cons]
      by_cases same : argument.1 = name
      · rw [same, get?_cons_self, if_pos rfl]
      · rw [get?_cons_of_ne (by simpa using same), if_neg same, induction]

theorem erase_ofNames (given : Arguments) (name : String) :
    erase (ofNames given) name = ofNames (given.restrict (fun other => name ≠ other)) := by
  have keeps (argument : String × Value) :
      (!(Value.text name).eqv (.text argument.1)) = decide (name ≠ argument.1) := by
    by_cases same : name = argument.1 <;> simp [Value.same, same]
  unfold erase ofNames Arguments.restrict
  rw [List.filter_map]
  exact congrArg _ (List.filter_congr (fun argument _ => keeps argument))

end Entries

theorem Arguments.merge_assoc {middle : Arguments} (distinct : middle.Distinct)
    (lower upper : Arguments) :
    merge lower (merge middle upper) = merge (merge lower middle) upper := by
  apply Entries.ofNames_injective
  rw [← Entries.merge_ofNames, Entries.merge_merge distinct, Entries.merge_ofNames,
    Entries.merge_ofNames]

theorem Arguments.ofEntries?_ofNames {given : Arguments}
    (nameable : reservedName ∉ given.map Prod.fst) :
    ofEntries? (Entries.ofNames given) = some given := by
  induction given with
  | nil => rfl
  | cons argument rest induction =>
      rw [List.map_cons, List.mem_cons, not_or] at nameable
      rw [Entries.ofNames_cons, ofEntries?, if_neg (Ne.symm nameable.1), induction nameable.2]
      rfl

end RecordSchema
