import RecordSchema.Document.Compilation
import RecordSchema.Proofs.Descriptor.Likeness

namespace RecordSchema

/-! Like nodes have the same document in sessions that cannot be told apart, if the answers of
their providers are alike. -/

namespace Likeness

variable (like : Likeness)

/-- Providers whose answers to like options are alike. -/
def Resolves (catalogue : Catalogue) : Prop :=
  ∀ key id other given options, like.names id = like.names other →
    like.entries given options →
      like.Acts like.values ((catalogue key).resolve id given)
        ((catalogue key).resolve other options)

variable {catalogue : Catalogue}

theorem rename_eq_provider {names : Nat → Nat} {c : ProviderClass} {id : Nat} (value : Value) :
    value.rename names = .provider c id ↔
      ∃ other, value = .provider c other ∧ names other = id := by
  cases value with
  | field field => cases field; simp [Value.rename]
  | _ => simp [Value.rename, and_assoc]

theorem resolve_acts (resolves : like.Resolves catalogue) {provider other : Value}
    (related : like.values provider other) {given options : Entries}
    (same : like.entries given options) :
    like.Acts like.nodes (catalogue.resolve provider given)
      (catalogue.resolve other options) := by
  refine .bind (like.conform_acts related) (fun left right conforming => ?_)
  refine .bind (like.copying_acts (like.delivery_alike same)) (fun kept copied delivered => ?_)
  cases left with
  | provider c id =>
      obtain ⟨copy, rfl, names⟩ := (rename_eq_provider right).mp conforming.symm
      exact .bind (resolves c.key id copy kept copied names.symm delivered)
        (fun _ _ spec => like.parse_alike spec)
  | _ =>
      cases right with
      | provider c id =>
          obtain ⟨copy, impossible, _⟩ := (rename_eq_provider _).mp conforming
          exact nomatch impossible
      | _ => exact like.fault_acts .type

theorem renameFields_mandatory (names : Nat → Nat) (fields : List Field) :
    ((renameFields names fields).filter (fun f => !f.optional)).map Field.wireKey =
      (fields.filter (fun f => !f.optional)).map Field.wireKey := by
  induction fields with
  | nil => rfl
  | cons field rest induction =>
      obtain ⟨name, descriptor, optional, key⟩ := field
      rw [renameFields]
      cases optional with
      | true => exact induction
      | false => exact congrArg (List.cons _) induction

theorem mappingDocument_rename (names : Nat → Nat) (fields : List Field) (nullable : Bool)
    (properties : List (String × Document)) :
    mappingDocument (renameFields names fields) nullable properties =
      mappingDocument fields nullable properties := by
  have required : Descriptor.requiredKeys (renameFields names fields) =
      Descriptor.requiredKeys fields := by
    rw [Descriptor.requiredKeys, renameFields_mandatory, Descriptor.requiredKeys]
  simp only [mappingDocument, required]

mutual
theorem compileWith_acts {expand further : Value → Entries → Action Document}
    (expands : ∀ {provider other given options}, like.values provider other →
      like.entries given options → like.Acts Eq (expand provider given) (further other options)) :
    (node : Descriptor) →
      like.Acts Eq (node.compileWith expand) ((node.rename like.names).compileWith further)
  | .primitive _ => .pure rfl
  | .mapping fields nullable =>
      .bind (compileFieldsWith_acts expands fields) (fun properties _ same => by
        subst same
        rw [mappingDocument_rename]
        exact .pure rfl)
  | .array element options =>
      .bind (compileWith_acts expands element) (fun items _ same => by
        subst same
        exact .pure rfl)
  | .ref provider options =>
      expands (like.values_rename provider) (like.entries_rename options)
  | .foreign value => like.fail_acts (fun fixed => by rw [Value.rename_of_fixed fixed])
termination_by structural node => node

theorem compileFieldsWith_acts {expand further : Value → Entries → Action Document}
    (expands : ∀ {provider other given options}, like.values provider other →
      like.entries given options → like.Acts Eq (expand provider given) (further other options)) :
    (fields : List Field) →
      like.Acts Eq (compileFieldsWith expand fields)
        (compileFieldsWith further (renameFields like.names fields))
  | [] => .pure rfl
  | ⟨_, descriptor, _, _⟩ :: rest =>
      .bind (compileWith_acts expands descriptor) (fun document _ same => by
        subst same
        exact .bind (compileFieldsWith_acts expands rest) (fun others _ same => by
          subst same
          exact .pure rfl))
termination_by structural fields => fields
end

theorem compileWithin_acts (resolves : like.Resolves catalogue) (limit : Nat)
    {node other : Descriptor} (related : like.nodes node other) :
    like.Acts Eq (node.compileWithin catalogue limit) (other.compileWithin catalogue limit) := by
  induction limit generalizing node other with
  | zero =>
      exact .of_shade like.sessions_refl like.sessions_join like.errors_join
        (fun _ _ _ first second => first.trans second.symm)
        (like.compileWith_acts (fun _ _ => like.fault_acts .recursion)) related
  | succ limit induction =>
      refine .of_shade like.sessions_refl like.sessions_join like.errors_join
        (fun _ _ _ first second => first.trans second.symm)
        (like.compileWith_acts (fun {provider other given options} same options => ?_)) related
      refine .bind (like.resolve_acts resolves same options) (fun _ _ resolved => ?_)
      exact .bind (like.write_acts _ _ _ _) (fun _ _ _ => induction resolved)

theorem compile_acts (resolves : like.Resolves catalogue) {node other : Descriptor}
    (related : like.nodes node other) :
    like.Acts Eq (node.compile catalogue) (other.compile catalogue) :=
  like.compileWithin_acts resolves expansionLimit related

end Likeness

end RecordSchema
