import RecordSchema.Descriptor.Shorthand
import RecordSchema.Proofs.Session.Likeness

namespace RecordSchema

/-! Descriptions are read alike in sessions that cannot be told apart: like descriptions
give like nodes. -/

namespace Likeness

variable (like : Likeness)

theorem buildPrimitive_acts (kind : Kind) {given other : Arguments}
    (related : like.arguments given other) :
    like.Acts like.nodes (Descriptor.buildPrimitive kind given)
      (Descriptor.buildPrimitive kind other) := by
  refine .bind (like.build_acts _ related) (fun record _ same => ?_)
  subst same
  cases record.primitive? with
  | none => exact .pure rfl
  | some options => exact .pure rfl

theorem renameFields_names (names : Nat → Nat) (fields : List Field) :
    (renameFields names fields).map Field.name = fields.map Field.name := by
  induction fields with
  | nil => rfl
  | cons field rest induction =>
      obtain ⟨name, descriptor, optional, key⟩ := field
      rw [renameFields, List.map_cons, induction, List.map_cons]

theorem renameFields_keys (names : Nat → Nat) (fields : List Field) :
    (renameFields names fields).map Field.wireKey = fields.map Field.wireKey := by
  induction fields with
  | nil => rfl
  | cons field rest induction =>
      obtain ⟨name, descriptor, optional, key⟩ := field
      rw [renameFields, List.map_cons, induction, List.map_cons]
      rfl

theorem mappingOf_acts {given other : List Field} (related : like.fields given other)
    (nullable : Bool) :
    like.Acts like.nodes (Descriptor.mappingOf given nullable)
      (Descriptor.mappingOf other nullable) := by
  unfold fields at related
  have names : given.map Field.name = other.map Field.name := by
    rw [← renameFields_names like.names given, related, renameFields_names]
  have keys : given.map Field.wireKey = other.map Field.wireKey := by
    rw [← renameFields_keys like.names given, related, renameFields_keys]
  have clashes : Descriptor.clashes given = Descriptor.clashes other := by
    rw [Descriptor.clashes, names, keys, Descriptor.clashes]
  unfold Descriptor.mappingOf
  rw [clashes]
  split
  · exact .pure (congrArg (Descriptor.mapping · nullable) related)
  · exact like.fail_acts (fun _ => rfl)

theorem buildMapping_acts {given other : List Field} (related : like.fields given other)
    {options further : Arguments} (same : like.arguments options further) :
    like.Acts like.nodes (Descriptor.buildMapping given options)
      (Descriptor.buildMapping other further) := by
  refine .bind (like.build_acts _ same) (fun record _ equal => ?_)
  subst equal
  exact like.mappingOf_acts related _

theorem isForeign_rename (names : Nat → Nat) (node : Descriptor) :
    (node.rename names).isForeign = node.isForeign := by
  cases node <;> rfl

theorem buildArray_acts {element other : Descriptor} (related : like.nodes element other)
    {options further : Arguments} (same : like.arguments options further) :
    like.Acts like.nodes (Descriptor.buildArray element options)
      (Descriptor.buildArray other further) := by
  unfold nodes at related
  have foreign : element.isForeign = other.isForeign := by
    rw [← isForeign_rename like.names element, related, isForeign_rename]
  refine .bind (like.build_acts _ same) (fun record _ equal => ?_)
  subst equal
  rw [foreign]
  split
  · exact like.fail_acts (fun _ => rfl)
  · exact .pure (congrArg (Descriptor.array · record.arrayOptions) related)

theorem isCallable_rename (names : Nat → Nat) (value : Value) :
    (value.rename names).isCallable = value.isCallable := by
  cases value with
  | field field => cases field; rfl
  | _ => rfl

theorem lackedOperations_rename (names : Nat → Nat) (candidate : Value) :
    (candidate.rename names).lackedOperations = candidate.lackedOperations := by
  cases candidate with
  | field field => cases field; rfl
  | descriptor node => cases node <;> rfl
  | map kind entries =>
      cases kind with
      | record =>
          simp only [Value.rename, Value.lackedOperations, Entries.get?_rename, Option.any_map,
            isCallable_rename]
      | _ => rfl
  | _ => rfl

theorem conform_shade (candidate : Value) :
    like.Acts like.values candidate.conform (candidate.rename like.names).conform := by
  unfold Value.conform
  rw [lackedOperations_rename]
  split
  · exact like.fail_acts (fun fixed => by rw [Value.rename_of_fixed fixed])
  · cases candidate with
    | providerClass c =>
        simp only [Value.rename]
        cases c.refusal with
        | some refusal => exact .throw (like.errors_refl _)
        | none =>
            intro first second related
            obtain ⟨shared, linked⟩ := like.share related.2.2 c
            exact ⟨.ok (congrArg (Value.provider c) shared), related.1, related.2.1, linked⟩
    | field field =>
        cases field
        exact .pure (like.values_rename _)
    | _ => exact .pure (like.values_rename _)

theorem values_join : Joins like.values :=
  fun _ _ _ first second => first.trans second.symm

theorem conform_acts {candidate other : Value} (related : like.values candidate other) :
    like.Acts like.values candidate.conform other.conform :=
  .of_shade like.sessions_refl like.sessions_join like.errors_join like.values_join
    like.conform_shade related

theorem buildRef_acts {candidate other : Value} (related : like.values candidate other)
    {options further : Entries} (same : like.entries options further) :
    like.Acts like.nodes (Descriptor.buildRef candidate options)
      (Descriptor.buildRef other further) := by
  refine .bind (like.conform_acts related) (fun provider _ conforming => ?_)
  refine .bind (like.copying_acts (like.snapshot_alike same)) (fun kept _ copied => ?_)
  refine .pure ?_
  unfold values at conforming
  unfold entries at copied
  unfold nodes
  rw [Descriptor.rename, conforming, copied, Descriptor.rename]

theorem withOptions_acts (node : Descriptor) {options other : Entries}
    (related : like.entries options other) :
    like.Acts like.nodes (node.withOptions options)
      ((node.rename like.names).withOptions other) := by
  refine .bind (like.ofEntries_acts related) (fun given _ same => ?_)
  cases node with
  | primitive own => exact like.buildPrimitive_acts _ (like.arguments_merge rfl same)
  | mapping fields nullable =>
      have shaded : like.fields fields (renameFields like.names fields) := by
        unfold Likeness.fields
        rw [renameFields_rename]
        simp only [like.settled]
      exact like.buildMapping_acts shaded (like.arguments_merge rfl same)
  | array element own =>
      exact like.buildArray_acts (like.nodes_rename element) (like.arguments_merge rfl same)
  | ref provider own =>
      exact like.buildRef_acts (like.values_rename provider)
        (like.entries_merge (like.entries_rename own) related)
  | foreign value => exact like.fault_acts _

/-! ### Reading descriptions -/

theorem optionalOf_acts {given other : Entries} (related : like.entries given other) :
    like.Acts Eq (Shorthand.optionalOf given) (Shorthand.optionalOf other) := by
  refine .of_shade like.sessions_refl like.sessions_join like.errors_join
    (fun _ _ _ first second => first.trans second.symm) (fun options => ?_) related
  unfold Shorthand.optionalOf
  rw [Entries.get?_rename]
  cases options.get? "optional" with
  | none => exact .pure rfl
  | some value =>
      have refused : like.Acts Eq
          (Action.failShowing value (.optionalNotBoolean value) : Action Bool)
          (Action.failShowing (value.rename like.names)
            (.optionalNotBoolean (value.rename like.names))) :=
        like.failShowing_acts (fun fixed => by rw [Value.rename_of_fixed fixed]; simp)
      cases value with
      | bool optional => exact .pure rfl
      | field field => cases field; exact refused
      | _ => exact refused

theorem keyOf_acts {given other : Entries} (related : like.entries given other) :
    like.Acts Eq (Shorthand.keyOf given) (Shorthand.keyOf other) := by
  refine .of_shade like.sessions_refl like.sessions_join like.errors_join
    (fun _ _ _ first second => first.trans second.symm) (fun options => ?_) related
  unfold Shorthand.keyOf
  rw [Entries.get?_rename]
  cases options.get? "key" with
  | none => exact .pure rfl
  | some value =>
      have refused : like.Acts Eq
          (Action.failShowing value (.keyNotText value) : Action (Option String))
          (Action.failShowing (value.rename like.names)
            (.keyNotText (value.rename like.names))) :=
        like.failShowing_acts (fun fixed => by rw [Value.rename_of_fixed fixed]; simp)
      cases value with
      | null => exact .pure rfl
      | text key => exact .pure rfl
      | field field => cases field; exact refused
      | _ => exact refused

/-- Field options that differ in provider objects only. -/
structure Owns (own other : Shorthand.FieldOptions) : Prop where
  optional : own.optional = other.optional
  key : own.key = other.key
  rest : like.entries own.rest other.rest

/-- What was read, but for provider objects. -/
structure Reads (parsed other : Parsed) : Prop where
  descriptor : like.nodes parsed.descriptor other.descriptor
  optional : parsed.optional = other.optional
  key : parsed.key = other.key

theorem fieldOptions_acts {given other : Entries} (related : like.entries given other) :
    like.Acts like.Owns (Shorthand.fieldOptions given) (Shorthand.fieldOptions other) :=
  .bind (like.optionalOf_acts related) (fun _ _ optional =>
    .bind (like.keyOf_acts related) (fun _ _ key =>
      .pure ⟨optional, key, like.entries_erase (like.entries_erase related _) _⟩))

theorem named_acts (registry : Registry) (name : String) {given other : Entries}
    (related : like.entries given other) :
    like.Acts like.nodes (Shorthand.named registry name given)
      (Shorthand.named registry name other) := by
  unfold Shorthand.named
  split
  · exact .bind (like.ofEntries_acts related)
      (fun _ _ same => like.buildPrimitive_acts _ same)
  · split
    · exact like.buildRef_acts rfl related
    · exact like.fail_acts (fun _ => rfl)

theorem listed_acts (kind : MapKind) (entries : Entries) :
    like.Acts Eq (Shorthand.listed kind entries)
      (Shorthand.listed kind (renameEntries like.names entries)) := by
  unfold Shorthand.listed
  rw [Entries.hidden_rename]
  split
  · exact like.fault_acts .type
  · exact .pure rfl

theorem attached_acts (node : Descriptor) {given other : Entries}
    (related : like.entries given other) :
    like.Acts like.nodes (Shorthand.attached node given)
      (Shorthand.attached (node.rename like.names) other) := by
  have empty : given.isEmpty = other.isEmpty := by
    have renamed := congrArg List.isEmpty related
    simpa only [renameEntries_eq_map, List.isEmpty_map] using renamed
  unfold Shorthand.attached
  rw [empty]
  split
  · exact .pure (like.nodes_rename node)
  · exact like.withOptions_acts node related

theorem atom_acts {spec : Value} {given other : Entries} (related : like.entries given other) :
    like.Acts like.Reads
      (do
        let own ← Shorthand.fieldOptions given
        return ⟨← Descriptor.buildRef spec own.rest, own.optional, own.key⟩)
      (do
        let own ← Shorthand.fieldOptions other
        return ⟨← Descriptor.buildRef (spec.rename like.names) own.rest, own.optional, own.key⟩) :=
  .bind (like.fieldOptions_acts related) (fun _ _ own =>
    .bind (like.buildRef_acts (like.values_rename spec) own.rest) (fun _ _ node =>
      .pure ⟨node, own.optional, own.key⟩))

theorem refusal_acts {spec : Value} {given other : Entries}
    (related : like.entries given other) :
    like.Acts like.Reads
      (do
        let _ ← Shorthand.fieldOptions given
        Action.failShowing spec (.notDescription spec))
      (do
        let _ ← Shorthand.fieldOptions other
        Action.failShowing (spec.rename like.names) (.notDescription (spec.rename like.names))) :=
  .bind (like.fieldOptions_acts related) (fun _ _ _ =>
    like.failShowing_acts (fun fixed => by rw [Value.rename_of_fixed fixed]; simp))

theorem notPair_acts {results : α → β → Prop} (items : List Value) :
    like.Acts results (Action.failShowing (.tuple items) (.notPair (.tuple items)))
      (Action.failShowing (.tuple (renameItems like.names items))
        (.notPair (.tuple (renameItems like.names items)))) :=
  like.failShowing_acts (fun fixed => by rw [renameItems_of_fixed fixed]; simp)

mutual
theorem parse_acts (registry : Registry) : (spec : Value) → {given other : Entries} →
    like.entries given other →
      like.Acts like.Reads (Shorthand.parse registry spec given)
        (Shorthand.parse registry (spec.rename like.names) other)
  | .tuple [], _, _, _ => like.notPair_acts []
  | .tuple [item], _, _, _ => like.notPair_acts [item]
  | .tuple (first :: second :: rest), given, other, related => by
      let spec : Value := .tuple (first :: second :: rest)
      have refused : like.Acts like.Reads (Action.failShowing spec (.notPair spec))
          (Action.failShowing (spec.rename like.names) (.notPair (spec.rename like.names))) :=
        like.notPair_acts _
      cases second with
      | map kind layer =>
          cases rest with
          | nil =>
              exact parse_acts registry first
                (like.entries_merge (like.entries_rename layer) related)
          | cons third more => exact refused
      | field field => cases field; exact refused
      | _ => exact refused
  | .map kind entries, given, other, related => by
      rw [Value.rename, Shorthand.parse, Shorthand.parse, Entries.contains_rename]
      split
      · refine .bind (like.listed_acts kind entries) (fun _ _ _ => ?_)
        refine parseTyped_acts registry entries (like.entries_merge ?_ related)
        exact like.entries_erase (like.entries_rename entries) _
      · refine .bind (like.fieldOptions_acts related) (fun _ _ own => ?_)
        refine .bind (like.listed_acts kind entries) (fun _ _ _ => ?_)
        refine .bind (parseFields_acts registry entries) (fun _ _ fields => ?_)
        refine .bind (like.ofEntries_acts own.rest) (fun _ _ same => ?_)
        exact .bind (like.buildMapping_acts fields same)
          (fun _ _ node => .pure ⟨node, own.optional, own.key⟩)
  | .list items, given, other, related => by
      refine .bind (like.fieldOptions_acts related) (fun _ _ own => ?_)
      exact .bind (parseElement_acts registry items own.rest)
        (fun _ _ node => .pure ⟨node, own.optional, own.key⟩)
  | .descriptor node, given, other, related => by
      refine .bind (like.fieldOptions_acts related) (fun _ _ own => ?_)
      exact .bind (like.attached_acts node own.rest)
        (fun _ _ node => .pure ⟨node, own.optional, own.key⟩)
  | .text name, given, other, related => by
      refine .bind (like.fieldOptions_acts related) (fun _ _ own => ?_)
      exact .bind (like.named_acts registry name own.rest)
        (fun _ _ node => .pure ⟨node, own.optional, own.key⟩)
  | .null, _, _, related | .bool _, _, _, related | .number _, _, _, related
  | .bytes false _, _, _, related => like.refusal_acts related
  | .bytes true _, _, _, related | .set _ _, _, _, related | .date _ _ _, _, _, related
  | .moment _, _, _, related | .providerClass _, _, _, related | .provider _ _, _, _, related
  | .field ⟨_, _, _, _⟩, _, _, related | .options _, _, _, related
  | .other _, _, _, related => like.atom_acts related
termination_by structural spec => spec

theorem parseTyped_acts (registry : Registry) : (entries : List (Value × Value)) →
    {given other : Entries} → like.entries given other →
      like.Acts like.Reads (Shorthand.parseTyped registry entries given)
        (Shorthand.parseTyped registry (renameEntries like.names entries) other)
  | [], _, _, _ => like.fault_acts .value
  | (key, spec) :: rest, given, other, related => by
      have tail := parseTyped_acts registry rest related
      cases key with
      | text name =>
          rw [renameEntries, Shorthand.parseTyped, Shorthand.parseTyped]
          split
          · exact parse_acts registry spec related
          · exact tail
      | _ => exact tail
termination_by structural entries => entries

theorem parseElement_acts (registry : Registry) : (items : List Value) →
    {given other : Entries} → like.entries given other →
      like.Acts like.nodes (Shorthand.parseElement registry items given)
        (Shorthand.parseElement registry (renameItems like.names items) other)
  | [], _, _, _ => like.fail_acts (fun _ => rfl)
  | [element], given, other, related => by
      refine .bind (parse_acts registry element rfl) (fun _ _ parsed => ?_)
      exact .bind (like.ofEntries_acts related)
        (fun _ _ same => like.buildArray_acts parsed.descriptor same)
  | _ :: _ :: rest, _, _, _ =>
      like.fail_acts (fun fixed => by
        simp only [renameItems, List.length_cons, renameItems_of_fixed fixed])
termination_by structural items => items

theorem parseFields_acts (registry : Registry) : (entries : List (Value × Value)) →
    like.Acts like.fields (Shorthand.parseFields registry entries)
      (Shorthand.parseFields registry (renameEntries like.names entries))
  | [] => .pure rfl
  | (key, spec) :: rest => by
      have tail := parseFields_acts registry rest
      cases key with
      | text name =>
          refine .bind (parse_acts registry spec rfl) (fun parsed other same => ?_)
          refine .bind tail (fun _ _ others => .pure ?_)
          rw [same.optional, same.key]
          exact like.fields_cons same.descriptor others
      | _ => exact like.failShowing_acts (fun _ => ⟨rfl, rfl⟩)
termination_by structural entries => entries
end

theorem nodes_join : Joins like.nodes :=
  fun _ _ _ first second => first.trans second.symm

theorem parse_alike {spec other : Value} (related : like.values spec other) :
    like.Acts like.nodes (spec.parse [] none) (other.parse [] none) := by
  have shaded (given : Value) :
      like.Acts like.nodes (given.parse [] none) ((given.rename like.names).parse [] none) := by
    refine .bind .get (fun session later same => ?_)
    rw [same.2.1]
    exact .bind (like.parse_acts _ given rfl) (fun _ _ parsed => .pure parsed.descriptor)
  exact .of_shade like.sessions_refl like.sessions_join like.errors_join like.nodes_join shaded
    related

end Likeness

end RecordSchema
