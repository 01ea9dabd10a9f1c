import RecordSchema.Proofs.Options.Explicit

namespace RecordSchema

/-! The types of options.  A record holds every option at its declared type, so that the
options it holds are read back as they are. -/

/-- The types that options are declared with.  A bound is an integer or a float. -/
inductive OptionType where
  | truth
  | integer
  | bound
  | count
  | format
  | integers
  | texts

/-- Values of each type as records hold them: no truth value is a number, and no count is
negative. -/
inductive OptionType.Holds : OptionType → Value → Prop where
  | truth (truth : Bool) : Holds .truth (.bool truth)
  | integer (integer : Int) : Holds .integer (.int integer)
  | bound (number : Number) : Holds .bound (.number number)
  | count (count : Nat) : Holds .count (.int count)
  | format (format : Format) : Holds .format (.text format.name)
  | integers (integers : List Int) : Holds .integers (.tuple (integers.map .int))
  | texts (texts : List String) : Holds .texts (.tuple (texts.map .text))

def RecordKind.optionTypes : RecordKind → List (String × OptionType)
  | .primitive .null => []
  | .primitive .boolean => [("nullable", .truth)]
  | .primitive .integer =>
      [("nullable", .truth), ("minimum", .integer), ("maximum", .integer), ("enum", .integers)]
  | .primitive .number => [("nullable", .truth), ("minimum", .bound), ("maximum", .bound)]
  | .primitive .string =>
      [("nullable", .truth), ("min_length", .count), ("max_length", .count), ("enum", .texts),
        ("format", .format)]
  | .primitive .any => [("nullable", .truth)]
  | .mapping => [("nullable", .truth)]
  | .array => [("nullable", .truth), ("min_items", .count), ("max_items", .count)]

theorem RecordKind.map_fst_optionTypes (kind : RecordKind) :
    kind.optionTypes.map Prod.fst = kind.declared := by
  cases kind with
  | primitive kind => cases kind <;> rfl
  | _ => rfl

/-! ### What the readers accept -/

/-- What an option of the type may be given as: a value that records hold, a list for a sequence
of members, and null for any option but `nullable`. -/
inductive OptionType.Admits : OptionType → Value → Prop where
  | held {type : OptionType} {value : Value} (holds : type.Holds value) : Admits type value
  | listed {type : OptionType} {members : List Value} (holds : type.Holds (.tuple members)) :
      Admits type (.list members)
  | unset {type : OptionType} (optional : type ≠ .truth) : Admits type .null

theorem Format.eq_name_of_ofName? {format : Format} {name : String}
    (named : ofName? name = some format) : name = format.name := by
  unfold ofName? at named
  split at named
  case isTrue same => cases named; exact same
  case isFalse =>
      split at named
      case isTrue same => cases named; exact same
      case isFalse => exact nomatch named

/-- The rule accepts the values of one form, and refuses all others. -/
def Value.ReadAs (read : Value → Checked α) (form : β → Value) : Prop :=
  ∀ value, (∃ result, read value = .accepted result) ↔ ∃ given, value = form given

namespace Value

theorem readBool_readAs : ReadAs readBool .bool := by
  intro value
  constructor
  · rintro ⟨result, accepted⟩
    unfold readBool at accepted
    split at accepted
    · exact ⟨_, rfl⟩
    · exact nomatch accepted
  · rintro ⟨given, rfl⟩
    exact ⟨given, rfl⟩

theorem readInt_readAs : ReadAs readInt int := by
  intro value
  constructor
  · rintro ⟨result, accepted⟩
    unfold readInt at accepted
    split at accepted
    · exact ⟨_, rfl⟩
    · exact nomatch accepted
  · rintro ⟨given, rfl⟩
    exact ⟨given, rfl⟩

theorem readBound_readAs : ReadAs readBound .number := by
  intro value
  constructor
  · rintro ⟨result, accepted⟩
    unfold readBound at accepted
    split at accepted
    · exact ⟨_, rfl⟩
    · exact nomatch accepted
  · rintro ⟨given, rfl⟩
    exact ⟨given, rfl⟩

theorem readCount_readAs : ReadAs readCount (fun count : Nat => .int count) := by
  intro value
  constructor
  · rintro ⟨result, accepted⟩
    unfold readCount at accepted
    split at accepted
    · exact ⟨_, rfl⟩
    · exact nomatch accepted
    · exact nomatch accepted
  · rintro ⟨given, rfl⟩
    exact ⟨given, rfl⟩

theorem readText_readAs : ReadAs readText .text := by
  intro value
  constructor
  · rintro ⟨result, accepted⟩
    unfold readText at accepted
    split at accepted
    · exact ⟨_, rfl⟩
    · exact nomatch accepted
  · rintro ⟨given, rfl⟩
    exact ⟨given, rfl⟩

theorem readFormat_readAs : ReadAs readFormat (fun format : Format => .text format.name) := by
  intro value
  constructor
  · rintro ⟨result, accepted⟩
    unfold readFormat at accepted
    split at accepted
    case h_1 name =>
        split at accepted
        case h_1 format named =>
            exact ⟨format, congrArg Value.text (Format.eq_name_of_ofName? named)⟩
        case h_2 => exact nomatch accepted
    case h_2 => exact nomatch accepted
  · rintro ⟨format, rfl⟩
    cases format with
    | datetime => exact ⟨.datetime, rfl⟩
    | email => exact ⟨.email, rfl⟩

/-- Members are read one by one. -/
theorem ReadAs.items {read : Value → Checked α} {form : β → Value} (reads : ReadAs read form)
    (position : Nat) (values : List Value) :
    (∃ results, Checked.items read position values = .accepted results) ↔
      ∃ given : List β, values = given.map form := by
  induction values generalizing position with
  | nil => exact iff_of_true ⟨[], rfl⟩ ⟨[], rfl⟩
  | cons value rest induction =>
      have step : (∃ results, Checked.items read position (value :: rest) = .accepted results) ↔
          (∃ result, read value = .accepted result) ∧
            ∃ results, Checked.items read (position + 1) rest = .accepted results := by
        simp only [Checked.items, Checked.both_eq_accepted, Checked.map_eq_accepted,
          Checked.within_eq_accepted]
        constructor
        · rintro ⟨_, _, _, ⟨result, first, -⟩, others, -⟩
          exact ⟨⟨result, first⟩, _, others⟩
        · rintro ⟨⟨result, first⟩, results, others⟩
          exact ⟨_, _, _, ⟨result, first, rfl⟩, others, rfl⟩
      rw [step, reads, induction]
      constructor
      · rintro ⟨⟨first, rfl⟩, given, rfl⟩
        exact ⟨first :: given, rfl⟩
      · rintro ⟨given, same⟩
        obtain ⟨first, given, rfl, rfl, rfl⟩ := List.map_eq_cons_iff.mp same.symm
        exact ⟨⟨first, rfl⟩, given, rfl⟩

end Value

namespace OptionType

/-- The rule accepts the values that the type admits, and refuses all others. -/
def ReadBy (type : OptionType) (read : Value → Checked α) : Prop :=
  ∀ value, (∃ result, read value = .accepted result) ↔ type.Admits value

theorem truth_readBy : truth.ReadBy Value.readBool := by
  intro value
  rw [Value.readBool_readAs]
  constructor
  · rintro ⟨given, rfl⟩
    exact .held (.truth given)
  · rintro (held | held | differs)
    · cases held with
      | truth given => exact ⟨given, rfl⟩
    · cases held
    · exact absurd rfl differs

section ReadBy

variable {type : OptionType} {read : Value → Checked α} {form : β → Value}

/-- Null aside, an option is read by the rule for its values. -/
theorem ReadBy.orNull (optional : type ≠ .truth)
    (reads : ∀ value, value ≠ .null →
      ((∃ result, read value = .accepted result) ↔ type.Admits value)) :
    type.ReadBy (Value.orNull read) := by
  intro value
  by_cases null : value = .null
  · subst null
    exact iff_of_true ⟨none, rfl⟩ (.unset optional)
  · rw [← reads value null]
    have given : Value.orNull read value = (read value).map some := by
      unfold Value.orNull
      split
      · exact absurd rfl null
      · rfl
    simp only [given, Checked.map_eq_accepted]
    constructor
    · rintro ⟨_, result, accepted, -⟩
      exact ⟨result, accepted⟩
    · rintro ⟨result, accepted⟩
      exact ⟨_, result, accepted, rfl⟩

theorem single_readBy (optional : type ≠ .truth) (reads : Value.ReadAs read form)
    (single : ∀ given, (form given).items? = none)
    (holds : ∀ value, type.Holds value ↔ ∃ given, value = form given) :
    type.ReadBy (Value.orNull read) := by
  refine .orNull optional (fun value given => ?_)
  rw [reads, ← holds]
  constructor
  · exact .held
  · rintro (held | held | _)
    · exact held
    · obtain ⟨other, same⟩ := (holds _).mp held
      have none := single other
      rw [← same] at none
      exact nomatch none
    · exact absurd rfl given

theorem members_readBy (optional : type ≠ .truth) (reads : Value.ReadAs read form)
    (holds : ∀ value, type.Holds value ↔ ∃ given : List β, value = .tuple (given.map form)) :
    type.ReadBy (Value.orNull (Value.readMembers read)) := by
  refine .orNull optional (fun value given => ⟨?_, ?_⟩)
  · rintro ⟨results, accepted⟩
    unfold Value.readMembers at accepted
    split at accepted
    case h_1 values sequence =>
        obtain ⟨members, rfl⟩ := (reads.items 0 values).mp ⟨results, accepted⟩
        have held : type.Holds (.tuple (members.map form)) := (holds _).mpr ⟨members, rfl⟩
        rcases Value.items?_eq_some.mp sequence with rfl | rfl
        · exact .listed held
        · exact .held held
    case h_2 => exact nomatch accepted
  · have whole {members : List Value} (held : type.Holds (.tuple members)) :
        ∃ results, Checked.items read 0 members = .accepted results := by
      obtain ⟨given, same⟩ := (holds _).mp held
      cases same
      exact (reads.items 0 _).mpr ⟨given, rfl⟩
    rintro (held | held | _)
    · obtain ⟨members, rfl⟩ := (holds _).mp held
      exact whole held
    · exact whole held
    · exact absurd rfl given

end ReadBy

theorem integer_readBy : integer.ReadBy (Value.orNull Value.readInt) := by
  refine single_readBy nofun Value.readInt_readAs (fun _ => rfl) (fun value => ⟨?_, ?_⟩)
  · intro held
    cases held with
    | integer given => exact ⟨given, rfl⟩
  · rintro ⟨given, rfl⟩
    exact .integer given

theorem bound_readBy : bound.ReadBy (Value.orNull Value.readBound) := by
  refine single_readBy nofun Value.readBound_readAs (fun _ => rfl) (fun value => ⟨?_, ?_⟩)
  · intro held
    cases held with
    | bound given => exact ⟨given, rfl⟩
  · rintro ⟨given, rfl⟩
    exact .bound given

theorem count_readBy : count.ReadBy (Value.orNull Value.readCount) := by
  refine single_readBy nofun Value.readCount_readAs (fun _ => rfl) (fun value => ⟨?_, ?_⟩)
  · intro held
    cases held with
    | count given => exact ⟨given, rfl⟩
  · rintro ⟨given, rfl⟩
    exact .count given

theorem format_readBy : format.ReadBy (Value.orNull Value.readFormat) := by
  refine single_readBy nofun Value.readFormat_readAs (fun _ => rfl) (fun value => ⟨?_, ?_⟩)
  · intro held
    cases held with
    | format given => exact ⟨given, rfl⟩
  · rintro ⟨given, rfl⟩
    exact .format given

theorem integers_readBy : integers.ReadBy (Value.orNull (Value.readMembers Value.readInt)) := by
  refine members_readBy nofun Value.readInt_readAs (fun value => ⟨?_, ?_⟩)
  · intro held
    cases held with
    | integers members => exact ⟨members, rfl⟩
  · rintro ⟨members, rfl⟩
    exact .integers members

theorem texts_readBy : texts.ReadBy (Value.orNull (Value.readMembers Value.readText)) := by
  refine members_readBy nofun Value.readText_readAs (fun value => ⟨?_, ?_⟩)
  · intro held
    cases held with
    | texts members => exact ⟨members, rfl⟩
  · rintro ⟨members, rfl⟩
    exact .texts members

/-- What the rules refuse: truth values and floats for integers and counts, negative counts, and
formats by another name. -/
theorem refuses :
    (∀ type truth, type ≠ OptionType.truth → ¬ type.Admits (.bool truth)) ∧
      (∀ type value, type ≠ bound → ¬ type.Admits (.number (.float value))) ∧
      (∀ number : Int, number < 0 → ¬ count.Admits (.int number)) ∧
      ∀ name, Format.ofName? name = none → ¬ format.Admits (.text name) := by
  refine ⟨?truths, ?floats, ?negatives, ?formats⟩
  case truths =>
      rintro type truth differs (⟨⟨⟩⟩ | _ | _)
      exact differs rfl
  case floats =>
      rintro type value differs (⟨⟨⟩⟩ | _ | _)
      exact differs rfl
  case negatives =>
      rintro number negative (held | _ | _)
      cases held with
      | count number => omega
  case formats =>
      rintro name unknown (held | _ | _)
      cases held with
      | format format => cases format <;> exact nomatch unknown

/-- Every option that is given is one that its type admits. -/
def AdmitsAll (types : List (String × OptionType)) (given : Arguments) : Prop :=
  ∀ option ∈ types, ∀ value, given.get? option.1 = some value → option.2.Admits value

theorem AdmitsAll.nil (given : Arguments) : AdmitsAll [] given :=
  List.forall_mem_nil _

theorem AdmitsAll.cons {type : OptionType} {read : Value → Checked α} (reads : type.ReadBy read)
    {given : Arguments} {name : String} {default result : α}
    (accepted : given.option name read default = .accepted result)
    {types : List (String × OptionType)} (others : AdmitsAll types given) :
    AdmitsAll ((name, type) :: types) given := by
  refine List.forall_mem_cons.mpr ⟨fun value found => ?_, others⟩
  rw [Arguments.option, found] at accepted
  refine (reads value).mp ?_
  cases checked : read value with
  | accepted held => exact ⟨held, rfl⟩
  | refused complaints =>
      dsimp only at accepted
      rw [checked] at accepted
      exact nomatch accepted

/-- What a kind reads its options from is of the types that it declares them with. -/
theorem AdmitsAll.of_declaredOptions {kind : RecordKind} {given : Arguments}
    {record : OptionRecord} (accepted : given.declaredOptions kind = .accepted record) :
    AdmitsAll kind.optionTypes given := by
  have only {nullable : Bool} (truth : given.nullable = .accepted nullable) :
      AdmitsAll [("nullable", .truth)] given :=
    .cons truth_readBy truth (.nil given)
  cases kind with
  | primitive kind =>
      cases kind with
      | null => exact .nil given
      | boolean | any =>
          obtain ⟨_, truth, -⟩ := Checked.map_eq_accepted.mp accepted
          exact only truth
      | integer =>
          obtain ⟨_, whole, -⟩ := Checked.map_eq_accepted.mp accepted
          simp only [Arguments.integerOptions, Checked.both_eq_accepted,
            Checked.map_eq_accepted] at whole
          obtain ⟨_, _, ⟨_, _, ⟨_, _, ⟨_, truth, -⟩, least, -⟩, most, -⟩, members, -⟩ := whole
          exact .cons truth_readBy truth <| .cons integer_readBy least <|
            .cons integer_readBy most <| .cons integers_readBy members (.nil given)
      | number =>
          obtain ⟨_, whole, -⟩ := Checked.map_eq_accepted.mp accepted
          simp only [Arguments.numberOptions, Checked.both_eq_accepted,
            Checked.map_eq_accepted] at whole
          obtain ⟨_, _, ⟨_, _, ⟨_, truth, -⟩, least, -⟩, most, -⟩ := whole
          exact .cons truth_readBy truth <| .cons bound_readBy least <|
            .cons bound_readBy most (.nil given)
      | string =>
          obtain ⟨_, whole, -⟩ := Checked.map_eq_accepted.mp accepted
          simp only [Arguments.stringOptions, Checked.both_eq_accepted,
            Checked.map_eq_accepted] at whole
          obtain ⟨_, _, ⟨_, _, ⟨_, _, ⟨_, _, ⟨_, truth, -⟩, least, -⟩, most, -⟩, members, -⟩,
            named, -⟩ := whole
          exact .cons truth_readBy truth <| .cons count_readBy least <|
            .cons count_readBy most <| .cons texts_readBy members <|
              .cons format_readBy named (.nil given)
  | mapping =>
      obtain ⟨_, truth, -⟩ := Checked.map_eq_accepted.mp accepted
      exact only truth
  | array =>
      obtain ⟨_, whole, -⟩ := Checked.map_eq_accepted.mp accepted
      simp only [Arguments.arrayOptions, Checked.both_eq_accepted,
        Checked.map_eq_accepted] at whole
      obtain ⟨_, _, ⟨_, _, ⟨_, truth, -⟩, least, -⟩, most, -⟩ := whole
      exact .cons truth_readBy truth <| .cons count_readBy least <|
        .cons count_readBy most (.nil given)

end OptionType

namespace OptionRecord

/-- A nullable `any` only where it is allowed. -/
def Permitted (allowed : Prop) (record : OptionRecord) : Prop :=
  record = .primitive (.any true) → allowed

/-- The options that are set have their declared types, and all checks accept them as they
are. -/
structure WellTyped (record : OptionRecord) : Prop where
  typed : ∀ argument ∈ record.explicit, ∃ type,
    (argument.1, type) ∈ record.recordKind.optionTypes ∧ type.Holds argument.2
  rechecks : ∀ policy, record.Permitted (policy = .accepted true) →
    read policy record.recordKind record.explicit = .accepted record

/-- A record is read from declared options only, each of them admitted by its type. -/
theorem admits_of_read {policy : NullableAny} {kind : RecordKind} {given : Arguments}
    {record : OptionRecord} (accepted : read policy kind given = .accepted record) {name : String}
    {value : Value} (found : given.get? name = some value) :
    ∃ type, (name, type) ∈ kind.optionTypes ∧ type.Admits value := by
  unfold read at accepted
  cases checked : (given.declaredOptions kind).alongside (given.undeclared kind.declared) with
  | refused complaints =>
      rw [checked] at accepted
      exact nomatch accepted
  | accepted first =>
      obtain ⟨declared, none⟩ := Checked.alongside_eq_accepted.mp checked
      have among : name ∈ kind.declared := by
        obtain ⟨argument, earliest, rfl⟩ := Option.map_eq_some_iff.mp found
        have kept := List.filter_eq_nil_iff.mp (List.map_eq_nil_iff.mp none) argument
          (List.mem_of_find?_eq_some earliest)
        have same : argument.1 = name := by simpa using List.find?_some earliest
        rw [← same]
        simpa using kept
      rw [← kind.map_fst_optionTypes] at among
      obtain ⟨⟨_, type⟩, member, rfl⟩ := List.mem_map.mp among
      exact ⟨type, member, OptionType.AdmitsAll.of_declaredOptions declared _ member value found⟩

theorem permitted_of_read {policy : NullableAny} {kind : RecordKind} {given : Arguments}
    {record : OptionRecord} (accepted : read policy kind given = .accepted record) :
    record.Permitted (policy = .accepted true) := by
  rintro rfl
  unfold read at accepted
  cases checked : (given.declaredOptions kind).alongside (given.undeclared kind.declared) with
  | refused complaints =>
      rw [checked] at accepted
      exact nomatch accepted
  | accepted first =>
      rw [checked] at accepted
      obtain rfl := eq_of_permitted accepted
      cases policy with
      | refused complaints => exact nomatch accepted
      | accepted allow =>
          cases allow with
          | false => exact nomatch accepted
          | true => rfl

section Typed

variable {types : List (String × OptionType)} {name : String} {type : OptionType}

/-- Arguments of declared types. -/
def Typed (types : List (String × OptionType)) (given : Arguments) : Prop :=
  ∀ argument ∈ given, ∃ type, (argument.1, type) ∈ types ∧ type.Holds argument.2

theorem Typed.append {first second : Arguments} (left : Typed types first)
    (right : Typed types second) : Typed types (first ++ second) :=
  List.forall_mem_append.mpr ⟨left, right⟩

end Typed

/-! ### Reading back -/

theorem integerOptions_explicit (o : IntegerOptions) :
    (primitive (.integer o)).explicit.integerOptions = .accepted o := by
  let given := (primitive (.integer o)).explicit
  have nullable : given.get? "nullable" = if o.nullable then some (.bool true) else none := by
    simp [given, explicit, Arguments.get?_append]
  have minimum : given.get? "minimum" = o.minimum.map Value.int := by
    simp [given, explicit, Arguments.get?_append]
  have maximum : given.get? "maximum" = o.maximum.map Value.int := by
    simp [given, explicit, Arguments.get?_append]
  have enum : given.get? "enum" = o.enum.map fun members => .tuple (members.map Value.int) := by
    simp [given, explicit, Arguments.get?_append]
  unfold Arguments.integerOptions
  rw [Arguments.nullable_of_held nullable, Arguments.option_of_held minimum (fun _ => rfl),
    Arguments.option_of_held maximum (fun _ => rfl),
    Arguments.option_of_held enum (Value.readMembers_map (fun _ => rfl))]
  rfl

theorem numberOptions_explicit (o : NumberOptions) :
    (primitive (.number o)).explicit.numberOptions = .accepted o := by
  let given := (primitive (.number o)).explicit
  have nullable : given.get? "nullable" = if o.nullable then some (.bool true) else none := by
    simp [given, explicit, Arguments.get?_append]
  have minimum : given.get? "minimum" = o.minimum.map numberValue := by
    simp [given, explicit, Arguments.get?_append]
  have maximum : given.get? "maximum" = o.maximum.map numberValue := by
    simp [given, explicit, Arguments.get?_append]
  unfold Arguments.numberOptions
  rw [Arguments.nullable_of_held nullable, Arguments.option_of_held minimum (fun _ => rfl),
    Arguments.option_of_held maximum (fun _ => rfl)]
  rfl

theorem stringOptions_explicit (o : StringOptions) :
    (primitive (.string o)).explicit.stringOptions = .accepted o := by
  let given := (primitive (.string o)).explicit
  have nullable : given.get? "nullable" = if o.nullable then some (.bool true) else none := by
    simp [given, explicit, Arguments.get?_append]
  have shortest : given.get? "min_length" = o.minLength.map countValue := by
    simp [given, explicit, Arguments.get?_append]
  have longest : given.get? "max_length" = o.maxLength.map countValue := by
    simp [given, explicit, Arguments.get?_append]
  have enum : given.get? "enum" = o.enum.map fun members => .tuple (members.map Value.text) := by
    simp [given, explicit, Arguments.get?_append]
  have format : given.get? "format" = o.format.map fun format => .text format.name := by
    simp [given, explicit, Arguments.get?_append]
  unfold Arguments.stringOptions
  rw [Arguments.nullable_of_held nullable, Arguments.option_of_held shortest (fun _ => rfl),
    Arguments.option_of_held longest (fun _ => rfl),
    Arguments.option_of_held enum (Value.readMembers_map (fun _ => rfl)),
    Arguments.option_of_held format (fun format => by cases format <;> rfl)]
  rfl

theorem arrayOptions_explicit (o : ArrayOptions) :
    (array o).explicit.arrayOptions = .accepted o := by
  let given := (array o).explicit
  have nullable : given.get? "nullable" = if o.nullable then some (.bool true) else none := by
    simp [given, explicit, Arguments.get?_append]
  have fewest : given.get? "min_items" = o.minItems.map countValue := by
    simp [given, explicit, Arguments.get?_append]
  have most : given.get? "max_items" = o.maxItems.map countValue := by
    simp [given, explicit, Arguments.get?_append]
  unfold Arguments.arrayOptions
  rw [Arguments.nullable_of_held nullable, Arguments.option_of_held fewest (fun _ => rfl),
    Arguments.option_of_held most (fun _ => rfl)]
  rfl

theorem declaredOptions_explicit (record : OptionRecord) :
    record.explicit.declaredOptions record.recordKind = .accepted record := by
  have nullable (given : Bool) : (explicitNullable given).nullable = .accepted given :=
    Arguments.nullable_of_held (by simp)
  cases record with
  | primitive options =>
      cases options with
      | null => rfl
      | boolean given | any given => exact congrArg (Checked.map _) (nullable given)
      | integer o => exact congrArg (Checked.map _) (integerOptions_explicit o)
      | number o => exact congrArg (Checked.map _) (numberOptions_explicit o)
      | string o => exact congrArg (Checked.map _) (stringOptions_explicit o)
  | mapping given => exact congrArg (Checked.map _) (nullable given)
  | array o => exact congrArg (Checked.map _) (arrayOptions_explicit o)

end OptionRecord

end RecordSchema
