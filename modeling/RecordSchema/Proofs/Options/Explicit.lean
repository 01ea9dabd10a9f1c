import RecordSchema.Proofs.Options.Layers

namespace RecordSchema

/-! The explicit options of a record stand for the options that it was read from: laid under
any others they are read to the same record, or refused with the same complaints. -/

namespace Checked

theorem map_eq_accepted {f : α → β} {check : Checked α} {result : β} :
    check.map f = .accepted result ↔ ∃ value, check = .accepted value ∧ f value = result := by
  cases check <;> simp [map]

theorem both_eq_accepted {function : Checked (α → β)} {check : Checked α} {result : β} :
    function.both check = .accepted result ↔
      ∃ f value, function = .accepted f ∧ check = .accepted value ∧ f value = result := by
  cases function <;> cases check <;> simp [both]

theorem within_eq_accepted {place : String} {check : Checked α} {result : α} :
    check.within place = .accepted result ↔ check = .accepted result := by
  cases check <;> simp [within]

theorem items_map {check : Value → Checked α} {value : α → Value}
    (reads : ∀ member, check (value member) = .accepted member) (position : Nat)
    (members : List α) :
    items check position (members.map value) = .accepted members := by
  induction members generalizing position with
  | nil => rfl
  | cons member rest induction =>
      rw [List.map_cons, items, reads, induction]
      rfl

theorem alongside_eq_accepted {check : Checked α} {more : List Complaint} {value : α} :
    check.alongside more = .accepted value ↔ check = .accepted value ∧ more = [] := by
  cases check with
  | accepted given => cases more <;> simp [alongside]
  | refused complaints => cases complaints <;> cases more <;> simp [alongside]

end Checked

namespace Arguments

variable {given other : Arguments} {name : String}

theorem option_insert (given : Arguments) (name other : String) (value : Value)
    (read : Value → Checked α) (default : α) :
    (insert given name value).option other read default =
      if name = other then (read value).within other else given.option other read default := by
  unfold option
  rw [get?_insert]
  by_cases same : name = other
  · rw [if_pos same, if_pos same]
  · rw [if_neg same, if_neg same]

/-- An option that is read alike from two lists is read alike under any further options. -/
theorem option_merge {read : Value → Checked α} {default : α}
    (same : given.option name read default = other.option name read default)
    (upper : Arguments) :
    (merge given upper).option name read default =
      (merge other upper).option name read default := by
  induction upper generalizing given other with
  | nil => exact same
  | cons argument rest induction =>
      rw [merge_cons, merge_cons]
      refine induction ?_
      rw [option_insert, option_insert, same]

theorem undeclared_append (first second : Arguments) (declared : List String) :
    (first ++ second).undeclared declared =
      first.undeclared declared ++ second.undeclared declared := by
  simp [undeclared]

theorem restrict_of_undeclared {declared : List String} (none : given.undeclared declared = []) :
    restrict (fun name => !declared.contains name) given = [] :=
  List.map_eq_nil_iff.mp none

theorem undeclared_merge {declared : List String} (first : given.undeclared declared = [])
    (second : other.undeclared declared = []) (upper : Arguments) :
    (merge given upper).undeclared declared = (merge other upper).undeclared declared := by
  have restricted := restrict_merge (fun name => !declared.contains name) given upper
  rw [restrict_of_undeclared first, ← restrict_of_undeclared second, ← restrict_merge]
    at restricted
  exact congrArg (List.map _) restricted

/-! ### Reading explicit options back -/

theorem option_of_held {read : Value → Checked (Option α)} {value : α → Value} {held : Option α}
    (found : given.get? name = held.map value)
    (reads : ∀ value', read (value value') = .accepted (some value')) :
    given.option name read none = .accepted held := by
  unfold option
  rw [found]
  cases held with
  | none => rfl
  | some value' =>
      rw [Option.map_some]
      dsimp only
      rw [reads]
      rfl

theorem nullable_of_held {nullable : Bool}
    (found : given.get? "nullable" = if nullable then some (.bool true) else none) :
    given.nullable = .accepted nullable := by
  unfold Arguments.nullable option
  rw [found]
  cases nullable <;> rfl

end Arguments

theorem Value.readMembers_map {check : Value → Checked α} {value : α → Value}
    (reads : ∀ member, check (value member) = .accepted member) (members : List α) :
    Value.orNull (Value.readMembers check) (.tuple (members.map value)) =
      .accepted (some members) := by
  change (Checked.items check 0 (members.map value)).map some = _
  rw [Checked.items_map reads]
  rfl

namespace OptionRecord

@[simp] theorem get?_explicitOption (name other : String) (value : α → Value) (given : Option α) :
    Arguments.get? (explicitOption name value given) other =
      if name = other then given.map value else none := by
  cases given with
  | none => simp [explicitOption, Arguments.get?]
  | some held => simp [explicitOption, Arguments.get?]

@[simp] theorem get?_explicitMembers (name other : String) (value : α → Value)
    (given : Option (List α)) :
    Arguments.get? (explicitMembers name value given) other =
      if name = other then given.map (fun members => .tuple (members.map value)) else none := by
  cases given with
  | none => simp [explicitMembers, Arguments.get?]
  | some held => simp [explicitMembers, Arguments.get?]

@[simp] theorem get?_explicitNullable (nullable : Bool) (other : String) :
    Arguments.get? (explicitNullable nullable) other =
      if "nullable" = other then (if nullable then some (.bool true) else none) else none := by
  cases nullable <;> simp [explicitNullable, Arguments.get?]

/-! ### One record for each kind -/

variable {given : Arguments}

theorem nullable_merge {record : OptionRecord} {nullable : Bool}
    (read : given.nullable = .accepted nullable)
    (held : record.explicit.get? "nullable" = if nullable then some (.bool true) else none)
    (upper : Arguments) :
    (Arguments.merge record.explicit upper).nullable = (Arguments.merge given upper).nullable :=
  Arguments.option_merge ((Arguments.nullable_of_held held).trans read.symm) upper

theorem option_explicit_merge {record : OptionRecord} {name : String}
    {reader : Value → Checked (Option α)} {option : Option α} (value : α → Value)
    (read : given.option name reader none = .accepted option)
    (held : record.explicit.get? name = option.map value)
    (reads : ∀ value', reader (value value') = .accepted (some value')) (upper : Arguments) :
    (Arguments.merge record.explicit upper).option name reader none =
      (Arguments.merge given upper).option name reader none :=
  Arguments.option_merge ((Arguments.option_of_held held reads).trans read.symm) upper

theorem integerOptions_merge {o : IntegerOptions} (read : given.integerOptions = .accepted o)
    (upper : Arguments) :
    (Arguments.merge (primitive (.integer o)).explicit upper).integerOptions =
      (Arguments.merge given upper).integerOptions := by
  simp only [Arguments.integerOptions, Checked.both_eq_accepted, Checked.map_eq_accepted] at read
  obtain ⟨_, _, ⟨_, _, ⟨_, _, ⟨_, nullable, rfl⟩, minimum, rfl⟩, maximum, rfl⟩, enum, rfl⟩ := read
  unfold Arguments.integerOptions
  rw [nullable_merge nullable (by simp [explicit, Arguments.get?_append]),
    option_explicit_merge Value.int minimum (by simp [explicit, Arguments.get?_append])
      (fun _ => rfl),
    option_explicit_merge Value.int maximum (by simp [explicit, Arguments.get?_append])
      (fun _ => rfl),
    option_explicit_merge (fun members : List _ => .tuple (members.map Value.int)) enum
      (by simp [explicit, Arguments.get?_append]) (Value.readMembers_map (fun _ => rfl))]

theorem numberOptions_merge {o : NumberOptions} (read : given.numberOptions = .accepted o)
    (upper : Arguments) :
    (Arguments.merge (primitive (.number o)).explicit upper).numberOptions =
      (Arguments.merge given upper).numberOptions := by
  simp only [Arguments.numberOptions, Checked.both_eq_accepted, Checked.map_eq_accepted] at read
  obtain ⟨_, _, ⟨_, _, ⟨_, nullable, rfl⟩, minimum, rfl⟩, maximum, rfl⟩ := read
  unfold Arguments.numberOptions
  rw [nullable_merge nullable (by simp [explicit, Arguments.get?_append]),
    option_explicit_merge numberValue minimum (by simp [explicit, Arguments.get?_append])
      (fun _ => rfl),
    option_explicit_merge numberValue maximum (by simp [explicit, Arguments.get?_append])
      (fun _ => rfl)]

theorem stringOptions_merge {o : StringOptions} (read : given.stringOptions = .accepted o)
    (upper : Arguments) :
    (Arguments.merge (primitive (.string o)).explicit upper).stringOptions =
      (Arguments.merge given upper).stringOptions := by
  simp only [Arguments.stringOptions, Checked.both_eq_accepted, Checked.map_eq_accepted] at read
  obtain ⟨_, _, ⟨_, _, ⟨_, _, ⟨_, _, ⟨_, nullable, rfl⟩, shortest, rfl⟩, longest, rfl⟩, enum,
    rfl⟩, format, rfl⟩ := read
  unfold Arguments.stringOptions
  rw [nullable_merge nullable (by simp [explicit, Arguments.get?_append]),
    option_explicit_merge countValue shortest (by simp [explicit, Arguments.get?_append])
      (fun _ => rfl),
    option_explicit_merge countValue longest (by simp [explicit, Arguments.get?_append])
      (fun _ => rfl),
    option_explicit_merge (fun members : List _ => .tuple (members.map Value.text)) enum
      (by simp [explicit, Arguments.get?_append]) (Value.readMembers_map (fun _ => rfl)),
    option_explicit_merge (fun format => .text format.name) format
      (by simp [explicit, Arguments.get?_append]) (fun format => by cases format <;> rfl)]

theorem arrayOptions_merge {o : ArrayOptions} (read : given.arrayOptions = .accepted o)
    (upper : Arguments) :
    (Arguments.merge (array o).explicit upper).arrayOptions =
      (Arguments.merge given upper).arrayOptions := by
  simp only [Arguments.arrayOptions, Checked.both_eq_accepted, Checked.map_eq_accepted] at read
  obtain ⟨_, _, ⟨_, _, ⟨_, nullable, rfl⟩, least, rfl⟩, most, rfl⟩ := read
  unfold Arguments.arrayOptions
  rw [nullable_merge nullable (by simp [explicit, Arguments.get?_append]),
    option_explicit_merge countValue least (by simp [explicit, Arguments.get?_append])
      (fun _ => rfl),
    option_explicit_merge countValue most (by simp [explicit, Arguments.get?_append])
      (fun _ => rfl)]

/-- The declared options are read from explicit options as from those that were given. -/
theorem declaredOptions_merge {kind : RecordKind} {record : OptionRecord}
    (read : given.declaredOptions kind = .accepted record) (upper : Arguments) :
    (Arguments.merge record.explicit upper).declaredOptions kind =
      (Arguments.merge given upper).declaredOptions kind := by
  cases kind with
  | primitive kind =>
      cases kind with
      | null => rfl
      | boolean | any =>
          obtain ⟨nullable, first, rfl⟩ := Checked.map_eq_accepted.mp read
          exact congrArg (Checked.map _) (nullable_merge first (by simp [explicit]) upper)
      | integer =>
          obtain ⟨o, first, rfl⟩ := Checked.map_eq_accepted.mp read
          exact congrArg (Checked.map _) (integerOptions_merge first upper)
      | number =>
          obtain ⟨o, first, rfl⟩ := Checked.map_eq_accepted.mp read
          exact congrArg (Checked.map _) (numberOptions_merge first upper)
      | string =>
          obtain ⟨o, first, rfl⟩ := Checked.map_eq_accepted.mp read
          exact congrArg (Checked.map _) (stringOptions_merge first upper)
  | mapping =>
      obtain ⟨nullable, first, rfl⟩ := Checked.map_eq_accepted.mp read
      exact congrArg (Checked.map _) (nullable_merge first (by simp [explicit]) upper)
  | array =>
      obtain ⟨o, first, rfl⟩ := Checked.map_eq_accepted.mp read
      exact congrArg (Checked.map _) (arrayOptions_merge first upper)

theorem recordKind_of_declaredOptions {kind : RecordKind} {record : OptionRecord}
    (read : given.declaredOptions kind = .accepted record) : record.recordKind = kind := by
  cases kind with
  | primitive kind =>
      cases kind with
      | null =>
          cases read
          rfl
      | _ =>
          obtain ⟨o, -, rfl⟩ := Checked.map_eq_accepted.mp read
          rfl
  | _ =>
      obtain ⟨o, -, rfl⟩ := Checked.map_eq_accepted.mp read
      rfl

theorem undeclared_explicitOption {declared : List String} {name : String}
    (among : name ∈ declared) (value : α → Value) (option : Option α) :
    Arguments.undeclared (explicitOption name value option) declared = [] := by
  cases option <;> simp [explicitOption, Arguments.undeclared, among]

theorem undeclared_explicitMembers {declared : List String} {name : String}
    (among : name ∈ declared) (value : α → Value) (option : Option (List α)) :
    Arguments.undeclared (explicitMembers name value option) declared = [] := by
  cases option <;> simp [explicitMembers, Arguments.undeclared, among]

theorem undeclared_explicitNullable {declared : List String} (among : "nullable" ∈ declared)
    (nullable : Bool) : Arguments.undeclared (explicitNullable nullable) declared = [] := by
  cases nullable <;> simp [explicitNullable, Arguments.undeclared, among]

theorem undeclared_explicit (record : OptionRecord) :
    record.explicit.undeclared record.recordKind.declared = [] := by
  cases record with
  | primitive options =>
      cases options with
      | null => rfl
      | _ =>
          simp [explicit, recordKind, Primitive.kind, RecordKind.declared,
            Arguments.undeclared_append, undeclared_explicitNullable, undeclared_explicitOption,
            undeclared_explicitMembers]
  | _ =>
      simp [explicit, recordKind, RecordKind.declared, Arguments.undeclared_append,
        undeclared_explicitNullable, undeclared_explicitOption]

theorem eq_of_permitted {policy : NullableAny} {first record : OptionRecord}
    (allowed : permitted policy first = .accepted record) : first = record := by
  unfold permitted at allowed
  split at allowed
  · cases policy with
    | refused complaints => exact nomatch allowed
    | accepted allow =>
        cases allow with
        | false => exact nomatch allowed
        | true => exact Checked.accepted.inj allowed
  · exact Checked.accepted.inj allowed

theorem read_eq_accepted {policy : NullableAny} {kind : RecordKind} {record : OptionRecord}
    (accepted : read policy kind given = .accepted record) :
    given.declaredOptions kind = .accepted record ∧ given.undeclared kind.declared = [] := by
  unfold read at accepted
  cases checked : (given.declaredOptions kind).alongside (given.undeclared kind.declared) with
  | refused complaints =>
      rw [checked] at accepted
      exact nomatch accepted
  | accepted first =>
      rw [checked] at accepted
      rw [← eq_of_permitted accepted]
      exact Checked.alongside_eq_accepted.mp checked

/-- Options laid over the explicit options of a record are read as over those that the record
was read from. -/
theorem read_merge_explicit {policy : NullableAny} {kind : RecordKind} {record : OptionRecord}
    (accepted : read policy kind given = .accepted record) (upper : Arguments) :
    read policy kind (Arguments.merge record.explicit upper) =
      read policy kind (Arguments.merge given upper) := by
  obtain ⟨declared, undeclared⟩ := read_eq_accepted accepted
  have own := undeclared_explicit record
  rw [recordKind_of_declaredOptions declared] at own
  unfold read
  rw [declaredOptions_merge declared, Arguments.undeclared_merge own undeclared]

end OptionRecord

end RecordSchema
