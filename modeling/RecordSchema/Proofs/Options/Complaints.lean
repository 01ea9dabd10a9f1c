import RecordSchema.Proofs.Options.Typing

namespace RecordSchema

/-! The complaints about options, option by option.  No complaint about one option depends on the
others, and the complaints come in the order in which the kind declares its options, those about
undeclared options after them. -/

namespace Checked

/-- Only a check that has no complaint accepts: one that refuses says why. -/
def Speaks (check : Checked α) : Prop :=
  check.complaints = [] → ∃ value, check = .accepted value

protected theorem Speaks.accepted (value : α) : (accepted value).Speaks :=
  fun _ => ⟨value, rfl⟩

protected theorem Speaks.refused {complaints : List Complaint} (said : complaints ≠ []) :
    (refused complaints : Checked α).Speaks :=
  fun silent => absurd silent said

protected theorem Speaks.refuse (reason : Reason) : (refuse reason : Checked α).Speaks :=
  .refused (List.cons_ne_nil _ _)

protected theorem Speaks.map {check : Checked α} (speaks : check.Speaks) (f : α → β) :
    (check.map f).Speaks := by
  intro silent
  obtain ⟨value, rfl⟩ := speaks ((complaints_map f check).symm.trans silent)
  exact ⟨f value, rfl⟩

protected theorem Speaks.both {function : Checked (α → β)} {check : Checked α}
    (first : function.Speaks) (second : check.Speaks) : (function.both check).Speaks := by
  intro silent
  rw [complaints_both, List.append_eq_nil_iff] at silent
  obtain ⟨f, rfl⟩ := first silent.1
  obtain ⟨value, rfl⟩ := second silent.2
  exact ⟨f value, rfl⟩

protected theorem Speaks.within {check : Checked α} (speaks : check.Speaks) (place : String) :
    (check.within place).Speaks := by
  intro silent
  rw [complaints_within, List.map_eq_nil_iff] at silent
  obtain ⟨value, rfl⟩ := speaks silent
  exact ⟨value, rfl⟩

protected theorem Speaks.items {check : α → Checked β} (speaks : ∀ item, (check item).Speaks)
    (position : Nat) (members : List α) : (items check position members).Speaks := by
  induction members generalizing position with
  | nil => exact .accepted []
  | cons item rest induction =>
      exact (((speaks item).within _).map List.cons).both (induction (position + 1))

end Checked

/-! ### The rules of the options -/

namespace Value

open Checked (Speaks)

theorem readBool_speaks (value : Value) : (readBool value).Speaks := by
  unfold readBool
  split
  · exact .accepted _
  · exact .refuse _

theorem readInt_speaks (value : Value) : (readInt value).Speaks := by
  unfold readInt
  split
  · exact .accepted _
  · exact .refuse _

theorem readBound_speaks (value : Value) : (readBound value).Speaks := by
  unfold readBound
  split
  · exact .accepted _
  · exact .refused (List.cons_ne_nil _ _)

theorem readText_speaks (value : Value) : (readText value).Speaks := by
  unfold readText
  split
  · exact .accepted _
  · exact .refuse _

theorem readCount_speaks (value : Value) : (readCount value).Speaks := by
  unfold readCount
  split
  · exact .accepted _
  · exact .refuse _
  · exact .refuse _

theorem readFormat_speaks (value : Value) : (readFormat value).Speaks := by
  unfold readFormat
  split
  · split
    · exact .accepted _
    · exact .refuse _
  · exact .refuse _

theorem readMembers_speaks {member : Value → Checked α} (speaks : ∀ value, (member value).Speaks)
    (value : Value) : (readMembers member value).Speaks := by
  unfold readMembers
  split
  · exact .items speaks 0 _
  · exact .refuse _

theorem orNull_speaks {read : Value → Checked α} (speaks : ∀ value, (read value).Speaks)
    (value : Value) : (orNull read value).Speaks := by
  unfold orNull
  split
  · exact .accepted none
  · exact (speaks _).map some

end Value

namespace Arguments

variable {given own : Arguments} {kind : RecordKind}

theorem option_speaks {read : Value → Checked α} (speaks : ∀ value, (read value).Speaks)
    (given : Arguments) (name : String) (default : α) :
    (given.option name read default).Speaks := by
  unfold option
  split
  · exact (speaks _).within name
  · exact .accepted default

theorem nullable_speaks (given : Arguments) : given.nullable.Speaks :=
  option_speaks Value.readBool_speaks given "nullable" false

theorem declaredOptions_speaks (given : Arguments) (kind : RecordKind) :
    (given.declaredOptions kind).Speaks := by
  have nullable := nullable_speaks given
  have int := option_speaks (Value.orNull_speaks Value.readInt_speaks) given
  have ints := option_speaks
    (Value.orNull_speaks (Value.readMembers_speaks Value.readInt_speaks)) given
  have bound := option_speaks (Value.orNull_speaks Value.readBound_speaks) given
  have count := option_speaks (Value.orNull_speaks Value.readCount_speaks) given
  have texts := option_speaks
    (Value.orNull_speaks (Value.readMembers_speaks Value.readText_speaks)) given
  have format := option_speaks (Value.orNull_speaks Value.readFormat_speaks) given
  cases kind with
  | primitive kind =>
      cases kind with
      | null => exact .accepted _
      | boolean | any => exact nullable.map _
      | integer => exact ((((nullable.map _).both (int _ _)).both (int _ _)).both (ints _ _)).map _
      | number => exact (((nullable.map _).both (bound _ _)).both (bound _ _)).map _
      | string =>
          exact (((((nullable.map _).both (count _ _)).both (count _ _)).both (texts _ _)).both
            (format _ _)).map _
  | mapping => exact nullable.map _
  | array => exact (((nullable.map _).both (count _ _)).both (count _ _)).map _

theorem mem_of_get? {name : String} {value : Value} (found : given.get? name = some value) :
    (name, value) ∈ given := by
  obtain ⟨entry, first, rfl⟩ := Option.map_eq_some_iff.mp found
  have same : entry.1 = name := by simpa using List.find?_some first
  rw [← same]
  exact List.mem_of_find?_eq_some first

theorem get?_of_mem {name : String} {value : Value} (distinct : given.Distinct)
    (among : (name, value) ∈ given) : given.get? name = some value := by
  induction given with
  | nil => exact nomatch among
  | cons entry rest induction =>
      rw [Distinct, List.map_cons, List.nodup_cons] at distinct
      rw [get?_cons]
      rcases List.mem_cons.mp among with rfl | later
      · exact if_pos rfl
      · have differs : entry.1 ≠ name := by
          rintro rfl
          exact distinct.1 (List.mem_map.mpr ⟨_, later, rfl⟩)
        rw [if_neg differs]
        exact induction distinct.2 later

end Arguments

/-! ### All complaints -/

namespace RecordKind

variable {kind : RecordKind} {own given : Arguments}

/-- All that a record of the kind has against the options. -/
def complaints (kind : RecordKind) (given : Arguments) : List Complaint :=
  (given.declaredOptions kind).complaints ++ given.undeclared kind.declared

/-- What the kind has against the value of one declared option. -/
def objections (kind : RecordKind) (name : String) (value : Value) : List Complaint :=
  (Arguments.declaredOptions [(name, value)] kind).complaints

/-- The options that are given, the declared ones first and in the order of the declaration. -/
def inOrder (kind : RecordKind) (given : Arguments) : Arguments :=
  kind.declared.filterMap (fun name => (given.get? name).map (fun value => (name, value))) ++
    given.filter (fun entry => !kind.declared.contains entry.1)

theorem complaints_option {read : Value → Checked α} {default : α} (given : Arguments)
    (name : String) : (given.option name read default).complaints =
      (given.get? name).toList.flatMap (fun value =>
        (read value).complaints.map (Complaint.within name)) := by
  unfold Arguments.option
  cases given.get? name <;> simp

theorem complaints_declaredOptions (kind : RecordKind) (given : Arguments) :
    (given.declaredOptions kind).complaints = kind.declared.flatMap (fun name =>
      (given.get? name).toList.flatMap (kind.objections name)) := by
  have none (name : String) : Arguments.get? [] name = none := rfl
  unfold objections
  cases kind with
  | primitive kind =>
      cases kind <;>
        simp [declared, Arguments.declaredOptions, Arguments.integerOptions,
          Arguments.numberOptions, Arguments.stringOptions, Arguments.nullable, complaints_option,
          Arguments.get?_cons, none]
  | mapping =>
      simp [declared, Arguments.declaredOptions, Arguments.nullable, complaints_option,
        Arguments.get?_cons]
  | array =>
      simp [declared, Arguments.declaredOptions, Arguments.arrayOptions, Arguments.nullable,
        complaints_option, Arguments.get?_cons, none]

/-! ### One option at a time -/

theorem complaints_single_of_declared {name : String} (among : name ∈ kind.declared)
    (value : Value) : kind.complaints [(name, value)] = kind.objections name value := by
  simp [complaints, objections, Arguments.undeclared, among]

theorem complaints_single_of_undeclared {entry : String × Value}
    (foreign : entry.1 ∉ kind.declared) : kind.complaints [entry] = [.undeclared entry.1] := by
  have silent : (Arguments.declaredOptions [entry] kind).complaints = [] := by
    rw [complaints_declaredOptions, List.flatMap_eq_nil_iff]
    intro name among
    have differs : entry.1 ≠ name := fun same => foreign (same ▸ among)
    rw [Arguments.get?_cons, if_neg differs]
    rfl
  rw [complaints, silent, Arguments.undeclared, List.nil_append]
  simp [foreign]

/-- Each complaint is about one of the options, on its own. -/
theorem complaints_eq_flatMap (kind : RecordKind) (given : Arguments) :
    kind.complaints given =
      (kind.inOrder given).flatMap (fun entry => kind.complaints [entry]) := by
  rw [complaints, inOrder, List.flatMap_append]
  congr 1
  · rw [complaints_declaredOptions, List.filterMap_eq_flatMap_toList, List.flatMap_assoc]
    refine List.flatMap_congr (fun name among => ?_)
    cases given.get? name with
    | none => rfl
    | some value => simp [complaints_single_of_declared among]
  · rw [Arguments.undeclared, List.map_eq_flatMap]
    refine List.flatMap_congr (fun entry among => ?_)
    have foreign : entry.1 ∉ kind.declared := by simpa using (List.mem_filter.mp among).2
    exact (complaints_single_of_undeclared foreign).symm

theorem complaints_nil (kind : RecordKind) : kind.complaints [] = [] := by
  have none (name : String) : Arguments.get? [] name = none := rfl
  rw [complaints, complaints_declaredOptions]
  simp [none, Arguments.undeclared]

theorem mem_inOrder (distinct : given.Distinct) {entry : String × Value} :
    entry ∈ kind.inOrder given ↔ entry ∈ given := by
  obtain ⟨name, value⟩ := entry
  simp only [inOrder, List.mem_append, List.mem_filterMap, List.mem_filter, Option.map_eq_some_iff,
    Prod.mk.injEq]
  constructor
  · rintro (⟨_, _, _, found, rfl, rfl⟩ | ⟨among, _⟩)
    · exact Arguments.mem_of_get? found
    · exact among
  · intro among
    by_cases declared : name ∈ kind.declared
    · exact .inl ⟨name, declared, value, Arguments.get?_of_mem distinct among, rfl, rfl⟩
    · exact .inr ⟨among, by simpa using declared⟩

/-- Options that are fine make no difference to what is laid over them. -/
theorem complaints_merge (fine : kind.complaints own = []) (distinct : given.Distinct) :
    kind.complaints (Arguments.merge own given) = kind.complaints given := by
  obtain ⟨declared, undeclared⟩ := List.append_eq_nil_iff.mp fine
  rw [complaints, complaints]
  congr 1
  · rw [complaints_declaredOptions, List.flatMap_eq_nil_iff] at declared
    rw [complaints_declaredOptions, complaints_declaredOptions]
    refine List.flatMap_congr (fun name among => ?_)
    rw [Arguments.get?_merge distinct]
    cases given.get? name with
    | some value => rfl
    | none => simpa using declared name among
  · have none : Arguments.undeclared [] kind.declared = [] := rfl
    rw [Arguments.undeclared_merge undeclared none, Arguments.nil_merge distinct]

theorem complaints_explicit (record : OptionRecord) :
    record.recordKind.complaints record.explicit = [] := by
  rw [complaints, OptionRecord.declaredOptions_explicit, OptionRecord.undeclared_explicit]
  rfl

end RecordKind

namespace OptionRecord

variable {kind : RecordKind} {given : Arguments}

/-- A kind whose records are accepted whatever the settings say. -/
theorem read_of_complaints_nil (policy : NullableAny) (known : kind ≠ .primitive .any)
    (silent : kind.complaints given = []) :
    ∃ record, record.recordKind = kind ∧ read policy kind given = .accepted record := by
  obtain ⟨declared, undeclared⟩ := List.append_eq_nil_iff.mp silent
  obtain ⟨record, accepted⟩ := given.declaredOptions_speaks kind declared
  have same := recordKind_of_declaredOptions accepted
  refine ⟨record, same, ?_⟩
  have complete : (given.declaredOptions kind).alongside (given.undeclared kind.declared) =
      .accepted record := Checked.alongside_eq_accepted.mpr ⟨accepted, undeclared⟩
  rw [read, complete]
  subst same
  cases record with
  | primitive options =>
      cases options with
      | any nullable => exact absurd rfl known
      | _ => rfl
  | _ => rfl

theorem read_of_complaints (policy : NullableAny) (said : kind.complaints given ≠ []) :
    read policy kind given = .refused (kind.complaints given) := by
  unfold read Checked.alongside
  cases all : (given.declaredOptions kind).complaints ++ given.undeclared kind.declared with
  | nil => exact absurd all said
  | cons complaint complaints =>
      rw [RecordKind.complaints, all]
      rfl

end OptionRecord

/-! ### The text of complaints -/

namespace Complaint

theorem describeAll_append (label : String) {first second : List Complaint} (said : first ≠ [])
    (more : second ≠ []) : describeAll label (first ++ second) =
      describeAll label first ++ "; " ++ describeAll label second := by
  unfold describeAll
  rw [List.map_append, String.intercalate_append_of_ne_nil] <;> simpa

/-- The text about many things is made of those about each that there is something against. -/
theorem describeAll_flatMap (label : String) (about : α → List Complaint) (items : List α) :
    describeAll label (items.flatMap about) = String.intercalate "; "
      ((items.filter (fun item => !(about item).isEmpty)).map
        (fun item => describeAll label (about item))) := by
  induction items with
  | nil => rfl
  | cons item rest induction =>
      rw [List.flatMap_cons, List.filter_cons]
      by_cases silent : about item = []
      · simpa [silent] using induction
      · have said : (!(about item).isEmpty) = true := by simpa using silent
        rw [if_pos said, List.map_cons]
        by_cases last : rest.flatMap about = []
        · have none : rest.filter (fun item => !(about item).isEmpty) = [] := by
            simpa [List.filter_eq_nil_iff, List.flatMap_eq_nil_iff] using last
          rw [last, none, List.append_nil, List.map_nil, String.intercalate_singleton]
        · have later : rest.filter (fun item => !(about item).isEmpty) ≠ [] := by
            simpa [List.filter_eq_nil_iff, List.flatMap_eq_nil_iff] using last
          rw [describeAll_append label silent last, induction,
            String.intercalate_cons_of_ne_nil (by simpa using later)]

end Complaint

end RecordSchema
