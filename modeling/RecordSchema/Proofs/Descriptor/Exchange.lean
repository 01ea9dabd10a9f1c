import RecordSchema.Proofs.Descriptor.Refusal

namespace RecordSchema

/-! Descriptions in which some of the descriptions that they are made of are exchanged for others,
at any places and any depth. -/

namespace Shorthand

/-- Where a description stands: by itself, in a layer, as the element of a list or at a field. -/
inductive Role where
  | root
  | layered
  | element
  | field

mutual
/-- The second description is the first one with an exchange made at some of the places where a
description stands. -/
inductive Exchanged (exchange : Role → Value → Value → Prop) : Role → Value → Value → Prop where
  | kept (role : Role) (spec : Value) : Exchanged exchange role spec spec
  | here {role : Role} {spec other : Value} (made : exchange role spec other) :
      Exchanged exchange role spec other
  | pair {role : Role} {inner other : Value} {kind : MapKind} {layer : Entries}
      (inside : Exchanged exchange .layered inner other) :
      Exchanged exchange role (.tuple [inner, .map kind layer]) (.tuple [other, .map kind layer])
  | typed {role : Role} {inner other : Value} {kind : MapKind} {before after : Entries}
      (first : before.get? typeKey = none) (inside : Exchanged exchange .layered inner other) :
      Exchanged exchange role (.map kind (before ++ (.text typeKey, inner) :: after))
        (.map kind (before ++ (.text typeKey, other) :: after))
  | element {role : Role} {part other : Value}
      (inside : Exchanged exchange .element part other) :
      Exchanged exchange role (.list [part]) (.list [other])
  | fields {role : Role} {kind : MapKind} {entries others : Entries}
      (plain : Entries.contains entries typeKey = false)
      (inside : FieldsExchanged exchange entries others) :
      Exchanged exchange role (.map kind entries) (.map kind others)

inductive FieldsExchanged (exchange : Role → Value → Value → Prop) : Entries → Entries → Prop where
  | nil : FieldsExchanged exchange [] []
  | cons {name part other : Value} {entries others : Entries}
      (first : Exchanged exchange .field part other)
      (rest : FieldsExchanged exchange entries others) :
      FieldsExchanged exchange ((name, part) :: entries) ((name, other) :: others)
end

variable {exchange : Role → Value → Value → Prop}

/-- The fields keep their names. -/
theorem FieldsExchanged.contains {entries others : Entries}
    (exchanged : FieldsExchanged exchange entries others) (name : String) :
    Entries.contains others name = Entries.contains entries name := by
  cases exchanged with
  | nil => rfl
  | @cons key part other entries others first rest =>
      have later := rest.contains name
      simp only [Entries.contains, Entries.get?, Entries.find?, Option.isSome_map,
        List.find?_cons] at later ⊢
      split
      · rfl
      · exact later

/-- Described by its type, a description is read as that is, under the other entries. -/
theorem parse_typed {before : Entries} (first : before.get? typeKey = none)
    (registry : Registry) (inner : Value) (kind : MapKind) (after options : Entries) :
    parse registry (.map kind (before ++ (.text typeKey, inner) :: after)) options = (do
      listed kind (before ++ (.text typeKey, inner) :: after)
      parse registry inner (Entries.merge (Entries.erase (before ++ after) typeKey) options)) := by
  have described := Entries.get?_hole first inner after
  rw [parse, if_pos ((Entries.contains_iff _ _).mpr ⟨inner, described⟩),
    parseTyped_of_get? registry described, Entries.erase_hole]

variable {registry : Registry}

mutual
/-- Exchanging what is read alike changes nothing, wherever it stands. -/
theorem Exchanged.parse_eq (alike : ∀ role spec other, exchange role spec other → ∀ options,
      parse registry spec options = parse registry other options) :
    ∀ {role : Role} {spec other : Value}, Exchanged exchange role spec other →
      ∀ options, parse registry spec options = parse registry other options
  | _, _, _, .kept _ _, _ => rfl
  | _, _, _, .here made, options => alike _ _ _ made options
  | _, _, _, .pair inside, _ => inside.parse_eq alike _
  | _, _, _, .typed first inside, options => by
      rw [parse_typed first, parse_typed first, inside.parse_eq alike,
        listed_congr (Entries.contains_hole _ _ _ _ _ _)]
  | _, _, _, .element inside, options => by
      have read := inside.parse_eq alike []
      rw [parse, parse]
      simp only [parseElement, read]
  | _, _, _, .fields plain inside, options => by
      have read := inside.parseFields_eq alike
      have also := plain
      rw [← inside.contains] at also
      rw [parse, parse, if_neg (Bool.eq_false_iff.mp plain), if_neg (Bool.eq_false_iff.mp also),
        read, listed_congr (inside.contains "items")]

theorem FieldsExchanged.parseFields_eq (alike : ∀ role spec other, exchange role spec other →
      ∀ options, parse registry spec options = parse registry other options) :
    ∀ {entries others : Entries}, FieldsExchanged exchange entries others →
      parseFields registry entries = parseFields registry others
  | _, _, .nil => rfl
  | _, _, @FieldsExchanged.cons _ name _ _ _ _ first rest => by
      have read := first.parse_eq alike []
      have later := rest.parseFields_eq alike
      cases name with
      | text => simp only [parseFields, read, later]
      | _ => rfl
end

end Shorthand

namespace Value

/-- The description is read with the names of the registry that is consulted. -/
theorem run_parse (spec : Value) (options : Entries) (registry : Option Registry)
    (session : Session) :
    (spec.parse options registry).run.run session =
      (Shorthand.parse (Registry.orElse registry session.registry) spec options >>=
        fun parsed => pure parsed.descriptor).run.run session := rfl

theorem run_parse_of_read {spec : Value} {options : Entries} {registry : Option Registry}
    {session later : Session} {parsed : Parsed}
    (read : (Shorthand.parse (Registry.orElse registry session.registry) spec options).run.run
      session = (.ok parsed, later)) :
    (spec.parse options registry).run.run session = (.ok parsed.descriptor, later) := by
  rw [run_parse, Action.run_bind_of_run read]
  rfl

/-- Fields with different names and keys are read as a mapping of them. -/
theorem parse_of_fields {registry : Option Registry} {kind : MapKind} {entries : Entries}
    {fields : List Field} {session later : Session}
    (plain : Entries.contains entries Shorthand.typeKey = false)
    (lists : Entries.hidden kind entries = false)
    (read : (Shorthand.parseFields (Registry.orElse registry session.registry) entries).run.run
      session = (.ok fields, later))
    (names : (fields.map Field.name).Nodup) (keys : (fields.map Field.wireKey).Nodup) :
    ((Value.map kind entries).parse [] registry).run.run session =
      (.ok (.mapping fields false), later) := by
  have builds : Descriptor.buildMapping fields [] = (do
      let record ← OptionRecord.build .mapping []
      return .mapping fields (record.nullable?.getD false)) := by
    rw [Descriptor.buildMapping]
    simp only [Descriptor.mappingOf, Descriptor.clashes_eq_nil.mpr ⟨names, keys⟩]
  have parsed : (Shorthand.parse (Registry.orElse registry session.registry) (.map kind entries)
      []).run.run session = (.ok ⟨.mapping fields false, false, none⟩, later) := by
    rw [Shorthand.parse, if_neg (Bool.eq_false_iff.mp plain), Shorthand.listed_of_open lists]
    change (Shorthand.parseFields (Registry.orElse registry session.registry) entries >>=
      fun fields => do
        let node ← Descriptor.buildMapping fields []
        return (⟨node, false, none⟩ : Parsed)).run.run session = _
    rw [Action.run_bind_of_run read, builds]
    rfl
  exact run_parse_of_read parsed

theorem exists_read {spec : Value} {options : Entries} {registry : Option Registry}
    {session : Session} {node : Descriptor}
    (accepted : (spec.parse options registry).outcome session = .ok node) :
    ∃ parsed, (Shorthand.parse (Registry.orElse registry session.registry) spec options).run.run
        session = (.ok parsed, (spec.parse options registry).after session) ∧
      parsed.descriptor = node := by
  have whole := run_parse spec options registry session
  obtain ⟨parsed, read, finished⟩ :=
    Action.outcome_bind_eq_ok.mp ((congrArg Prod.fst whole).symm.trans accepted)
  rw [Action.run_bind_of_ok read] at whole
  have left : (spec.parse options registry).after session = _ := congrArg Prod.snd whole
  cases finished
  exact ⟨parsed, Prod.ext read left.symm, rfl⟩

end Value

end RecordSchema
