import RecordSchema.Proofs.Value.Renaming

namespace RecordSchema

/-! Option records are read alike from arguments with renamed provider objects: no option
takes one. -/

def renameArguments (names : Nat → Nat) (given : Arguments) : Arguments :=
  given.map (fun argument => (argument.1, argument.2.rename names))

variable {names : Nat → Nat}

/-- A rule that takes no provider object, or none in particular. -/
def Blind (names : Nat → Nat) (read : Value → Checked α) : Prop :=
  ∀ value, read (value.rename names) = read value

namespace Value

theorem readBool_blind : Blind names readBool := by
  intro value
  cases value with
  | field field => cases field; rfl
  | _ => rfl

theorem readInt_blind : Blind names readInt := by
  intro value
  cases value with
  | field field => cases field; rfl
  | _ => rfl

theorem readBound_blind : Blind names readBound := by
  intro value
  cases value with
  | field field => cases field; rfl
  | _ => rfl

theorem readText_blind : Blind names readText := by
  intro value
  cases value with
  | field field => cases field; rfl
  | _ => rfl

theorem readCount_blind : Blind names readCount := by
  intro value
  cases value with
  | field field => cases field; rfl
  | _ => rfl

theorem readFormat_blind : Blind names readFormat := by
  intro value
  cases value with
  | field field => cases field; rfl
  | _ => rfl

theorem orNull_blind {read : Value → Checked α} (blind : Blind names read) :
    Blind names (orNull read) := by
  intro value
  cases value with
  | null => rfl
  | field field =>
      cases field
      exact congrArg (Checked.map some) (blind _)
  | _ => exact congrArg (Checked.map some) (blind _)

theorem items_blind {read : Value → Checked α} (blind : Blind names read) (position : Nat)
    (items : List Value) :
    Checked.items read position (renameItems names items) = Checked.items read position items := by
  induction items generalizing position with
  | nil => rfl
  | cons item rest induction =>
      rw [renameItems, Checked.items, blind item, induction, Checked.items]

theorem readMembers_blind {read : Value → Checked α} (blind : Blind names read) :
    Blind names (readMembers read) := by
  intro value
  cases value with
  | list items => exact items_blind blind 0 items
  | tuple items => exact items_blind blind 0 items
  | field field => cases field; rfl
  | _ => rfl

end Value

namespace Arguments

theorem get?_rename (given : Arguments) (name : String) :
    (renameArguments names given).get? name = (given.get? name).map (Value.rename names) := by
  simp only [Arguments.get?, renameArguments, List.find?_map, Option.map_map]
  rfl

theorem insert_rename (name : String) (value : Value) (given : Arguments) :
    (renameArguments names given).insert name (value.rename names) =
      renameArguments names (given.insert name value) := by
  induction given with
  | nil => rfl
  | cons entry rest induction =>
      simp only [renameArguments, List.map_cons, Arguments.insert] at induction ⊢
      rw [induction]
      split <;> rfl

theorem merge_rename (lower upper : Arguments) :
    Arguments.merge (renameArguments names lower) (renameArguments names upper) =
      renameArguments names (Arguments.merge lower upper) := by
  induction upper generalizing lower with
  | nil => rfl
  | cons entry rest induction =>
      have later := induction (lower.insert entry.1 entry.2)
      rw [← insert_rename] at later
      exact later

theorem ofEntries?_rename (entries : Entries) :
    ofEntries? (renameEntries names entries) =
      (ofEntries? entries).map (renameArguments names) := by
  induction entries with
  | nil => rfl
  | cons entry rest induction =>
      obtain ⟨key, value⟩ := entry
      cases key with
      | text name =>
          rw [renameEntries, ofEntries?, induction, ofEntries?]
          split
          · rfl
          · cases ofEntries? rest <;> rfl
      | _ => rfl

theorem option_rename (names : Nat → Nat) {read : Value → Checked α} (blind : Blind names read)
    (given : Arguments) (name : String) (default : α) :
    (renameArguments names given).option name read default = given.option name read default := by
  rw [option, get?_rename, option]
  cases given.get? name with
  | none => rfl
  | some value => exact congrArg (Checked.within name) (blind value)

theorem undeclared_rename (given : Arguments) (declared : List String) :
    (renameArguments names given).undeclared declared = given.undeclared declared := by
  simp only [undeclared, renameArguments, List.filter_map, List.map_map]
  rfl

theorem nullable_rename (given : Arguments) :
    (renameArguments names given).nullable = given.nullable :=
  option_rename names Value.readBool_blind given "nullable" false

theorem declaredOptions_rename (given : Arguments) (kind : RecordKind) :
    (renameArguments names given).declaredOptions kind = given.declaredOptions kind := by
  have int := option_rename names (Value.orNull_blind Value.readInt_blind) given
  have ints := option_rename names
    (Value.orNull_blind (Value.readMembers_blind Value.readInt_blind)) given
  have bound := option_rename names (Value.orNull_blind Value.readBound_blind) given
  have count := option_rename names (Value.orNull_blind Value.readCount_blind) given
  have texts := option_rename names
    (Value.orNull_blind (Value.readMembers_blind Value.readText_blind)) given
  have format := option_rename names (Value.orNull_blind Value.readFormat_blind) given
  cases kind with
  | primitive kind =>
      cases kind with
      | null => rfl
      | boolean => simp only [declaredOptions, nullable_rename]
      | any => simp only [declaredOptions, nullable_rename]
      | integer => simp only [declaredOptions, integerOptions, nullable_rename, int, ints]
      | number => simp only [declaredOptions, numberOptions, nullable_rename, bound]
      | string =>
          simp only [declaredOptions, stringOptions, nullable_rename, count, texts, format]
  | mapping => simp only [declaredOptions, nullable_rename]
  | array => simp only [declaredOptions, arrayOptions, nullable_rename, count]

end Arguments

theorem OptionRecord.read_rename (names : Nat → Nat) (policy : NullableAny)
    (kind : RecordKind) (given : Arguments) :
    OptionRecord.read policy kind (renameArguments names given) =
      OptionRecord.read policy kind given := by
  rw [read, Arguments.declaredOptions_rename, Arguments.undeclared_rename, read]

end RecordSchema
