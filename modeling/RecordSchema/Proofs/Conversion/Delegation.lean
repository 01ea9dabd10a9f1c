import RecordSchema.Proofs.Conversion.Blame
import RecordSchema.Proofs.Conversion.Rebasing

namespace RecordSchema

/-! A value converts against a description with a delegated part as it does against the
description itself.  The delegated part starts a conversion of its own, at the root and without
earlier failures; whatever is raised there is taken back to the place. -/

/-- One list of failures, which goes on from the earlier ones, and one value if there are none. -/
inductive Close (found : List Failure) : α × List Failure → α × List Failure → Prop where
  | mk {value other : α} {later : List Failure} (grows : found <+: later)
      (same : later = [] → value = other) : Close found (value, later) (other, later)

namespace Close

variable {found later : List Failure}

protected theorem refl (value : α) (added : List Failure) :
    Close found (value, found ++ added) (value, found ++ added) :=
  .mk (List.prefix_append found added) (fun _ => rfl)

theorem after (grows : found <+: later) (result other : α × List Failure)
    (close : Close later result other) : Close found result other := by
  obtain ⟨further, same⟩ := close
  exact .mk (grows.trans further) same

theorem of_rebased (result other : α × List Failure)
    (rebased : Rebased [] [] found result other) : Close found result other := by
  obtain ⟨value, grows⟩ := rebased
  rw [List.nil_append, located_at_root]
  exact .mk grows (fun _ => rfl)

end Close

/-! ### Parts -/

theorem Field.ofKey?_hole (before after : List Field) {name : String} (node other : Descriptor)
    {optional : Bool} {key : Option String} (given : Value) :
    (Field.ofKey? (before ++ ⟨name, node, optional, key⟩ :: after) given =
        some ⟨name, node, optional, key⟩ ∧
      Field.ofKey? (before ++ ⟨name, other, optional, key⟩ :: after) given =
        some ⟨name, other, optional, key⟩) ∨
    (Field.ofKey? (before ++ ⟨name, node, optional, key⟩ :: after) given =
        Field.ofKey? (before ++ after) given ∧
      Field.ofKey? (before ++ ⟨name, other, optional, key⟩ :: after) given =
        Field.ofKey? (before ++ after) given) := by
  simp only [Field.ofKey?, List.find?_append, List.find?_cons, Field.wireKey]
  cases before.find? (fun field => given.eqv (.text (field.key.getD field.name))) with
  | some field => exact .inr ⟨rfl, rfl⟩
  | none =>
      cases given.eqv (.text (key.getD name)) with
      | true => exact .inl ⟨rfl, rfl⟩
      | false => exact .inr ⟨rfl, rfl⟩

/-- Both convert a value alike wherever it stands. -/
def Alike (side : Side) (d : Delegate) (start : Session) (expand further : Expansion)
    (node other : Descriptor) : Prop :=
  ∀ value path found, Action.Shadows side (Session.Abreast d start) (Close found)
    (Value.convertWith expand value node path found)
    (Value.convertWith further value other path found)

section Parts

variable {side : Side} {d : Delegate} {start : Session} {expand further : Expansion}

theorem Rebases.alike (rebases : Rebases side d start [] [] expand further) {node : Descriptor}
    (tolerated : start.ToleratesNode d node) : Alike side d start expand further node node := by
  intro value path found
  have rebased := value.convertWith_rebased rebases node tolerated path found
  rw [List.nil_append, List.nil_append, located_at_root] at rebased
  exact rebased.weaken Close.of_rebased

theorem convertEntries_close (rebases : Rebases side d start [] [] expand further)
    {before after : List Field} {name : String} {node other : Descriptor} {optional : Bool}
    {key : Option String}
    (tolerated : ∀ field ∈ before ++ after, start.ToleratesNode d field.descriptor)
    (alike : Alike side d start expand further node other) (entries : Entries) (path : Location)
    (record kept : Entries) (found : List Failure) (same : found = [] → record = kept) :
    Action.Shadows side (Session.Abreast d start) (Close found)
      (convertEntries expand entries (before ++ ⟨name, node, optional, key⟩ :: after) path record
        found)
      (convertEntries further entries (before ++ ⟨name, other, optional, key⟩ :: after) path kept
        found) := by
  induction entries generalizing record kept found with
  | nil => exact .pure (.mk List.prefix_rfl same)
  | cons entry rest induction =>
      obtain ⟨given, item⟩ := entry
      have entered (field : Field) (value other : Value) (later : List Failure)
          (grows : found <+: later) (equal : later = [] → value = other) :
          later = [] → Entries.insert record (.text field.name) value =
            Entries.insert kept (.text field.name) other := by
        intro none
        rw [same (List.prefix_nil.mp (none ▸ grows)), equal none]
      rw [convertEntries, convertEntries]
      rcases Field.ofKey?_hole before after node other given with
        ⟨left, right⟩ | ⟨left, right⟩
      · rw [left, right]
        refine .bind (alike item _ found) ?_
        rintro _ _ ⟨grows, equal⟩
        exact (induction _ _ _ (entered _ _ _ _ grows equal)).weaken (Close.after grows)
      · rw [left, right]
        cases belongs : Field.ofKey? (before ++ after) given with
        | none =>
            have grows := List.prefix_append found
              [Failure.unknownField (path ++ [given]) given.display]
            exact (induction record kept _ (fun none => by simp at none)).weaken
              (Close.after grows)
        | some field =>
            have inside := tolerated field (Field.ofKey?_eq_some belongs).1
            refine .bind (rebases.alike inside item _ found) ?_
            rintro _ _ ⟨grows, equal⟩
            exact (induction _ _ _ (entered _ _ _ _ grows equal)).weaken (Close.after grows)

theorem convertItems_close {element other : Descriptor}
    (alike : Alike side d start expand further element other) (items : List Value)
    (path : Location) (position : Nat) (found : List Failure) :
    Action.Shadows side (Session.Abreast d start) (Close found)
      (convertItems expand items element path position found)
      (convertItems further items other path position found) := by
  induction items generalizing position found with
  | nil => exact .pure (.mk List.prefix_rfl (fun _ => rfl))
  | cons item rest induction =>
      refine .bind (alike item _ found) ?_
      rintro _ _ ⟨grows, equal⟩
      refine .bind (induction _ _) ?_
      rintro _ _ ⟨further, equals⟩
      refine .pure (.mk (grows.trans further) (fun none => ?_))
      rw [equal (List.prefix_nil.mp (none ▸ further)), equals none]

theorem Descriptor.Stands.alike (rebases : Rebases side d start [] [] expand further)
    (refers : ∀ node provider options, Stands d start node (.ref provider options) →
      Alike side d start expand further node (.ref provider options))
    {node other : Descriptor} (stands : Stands d start node other) :
    Alike side d start expand further node other := by
  induction stands with
  | here portable reads tolerated checked =>
      exact refers _ _ _ (.here portable reads tolerated checked)
  | inside first portable tolerated wraps =>
      exact refers _ _ _ (.inside first portable tolerated wraps)
  | array _ induction =>
      intro value path found
      rw [Value.convertWith_array, Value.convertWith_array]
      cases value.items? with
      | none => exact .pure (.refl Value.null _)
      | some items =>
          refine .bind (convertItems_close induction items path 0 found) ?_
          rintro _ _ ⟨grows, equal⟩
          exact .pure (.mk grows (fun none => congrArg Value.list (equal none)))
  | mapping tolerated _ induction =>
      intro value path found
      rw [Value.convertWith_mapping, Value.convertWith_mapping]
      cases value.entries? with
      | none => exact .pure (.refl Value.null _)
      | some entries =>
          refine .bind (convertEntries_close rebases tolerated induction entries path [] [] found
            (fun _ => rfl)) ?_
          rintro _ _ ⟨grows, equal⟩
          exact .pure (.mk grows (fun none => congrArg (Value.map .record) (equal none)))

theorem Alike.completeConversion {node other : Descriptor}
    (alike : Alike side d start expand further node other) (value : Value) :
    Action.Shadows side (Session.Abreast d start) Eq
      (RecordSchema.completeConversion expand node value)
      (RecordSchema.completeConversion further other value) := by
  refine .bind (alike value [] []) ?_
  rintro _ _ ⟨_, equal⟩
  dsimp only
  split
  · next none => exact .pure (equal (List.isEmpty_iff.mp none))
  · exact .bind (write_shadows _ _ _ _) (fun _ _ _ => .throw _)

end Parts

/-! ### The conversion of a delegated part -/

section Delegated

variable {catalogue : Catalogue} {d : Delegate} {start : Session} {side : Side}

theorem Catalogue.convertValue_delegated (able : d.provider.Able)
    (delegating : catalogue d.provider.key = .delegating)
    (convert : Descriptor → Value → Action Value) (id : Nat) (resolved : Descriptor)
    (value : Value) :
    catalogue.convertValue convert (.provider d.provider id) resolved value =
      convert resolved value := by
  rw [convertValue, able.conform_object, pure_bind]
  dsimp only
  rw [delegating]
  rfl

theorem Catalogue.convertValue_delegated_shadows (able : d.provider.Able)
    (delegating : catalogue d.provider.key = .delegating) (id : Nat)
    {convert further : Descriptor → Value → Action Value} {node other : Descriptor} {value : Value}
    (alike : Action.Shadows side (Session.Abreast d start) Eq (convert node value)
      (further other value)) :
    Action.Shadows side (Session.Abreast d start) Eq
      (catalogue.convertValue convert (.provider d.provider id) node value)
      (catalogue.convertValue further (.provider d.provider id) other value) := by
  rw [catalogue.convertValue_delegated able delegating,
    catalogue.convertValue_delegated able delegating]
  exact alike

/-- The nested conversion runs at the root, and its failures are moved to the place. -/
theorem convertResolved_delegated (able : d.provider.Able)
    (delegating : catalogue d.provider.key = .delegating)
    (plainly : catalogue.ResolvesPlainly) (limit id : Nat) (node : Descriptor) (value : Value)
    (path : Location) (found : List Failure) :
    convertResolved catalogue limit (.provider d.provider id) node value path found = (do
      let converted ← value.convertWith (expandWithin catalogue limit) node [] []
      if converted.2.isEmpty then return (converted.1, found)
      else
        Action.write converterLogger Log.debug
          s!"Conversion failed with {converted.2.length} failure(s)"
        return (.null, found ++ located path converted.2)) := by
  have within := value.convertWith_within
    (expandWithin_within plainly.within
      (fun _ _ _ _ _ _ => ⟨fun _ => trivial, fun _ _ _ => trivial⟩) (fun _ other => other) limit)
    node [] []
  unfold convertResolved
  dsimp only
  rw [catalogue.convertValue_delegated able delegating, completeConversion, bind_assoc,
    Action.tryCatch_bind]
  · congr 1
    funext converted
    obtain ⟨result, failures⟩ := converted
    cases failures with
    | nil => rfl
    | cons failure failures => rfl
  · intro session error failed
    cases error with
    | conversion failures reason =>
        exact absurd rfl (within.allows session _ failed failures reason)
    | _ => rfl

theorem convertResolved_close (able : d.provider.Able)
    (delegating : catalogue d.provider.key = .delegating)
    (plainly : catalogue.ResolvesPlainly) {limit id : Nat} {node : Descriptor} {value : Value}
    {path : Location} {found : List Failure} {left : Action Converted}
    (rebased : Action.Shadows side (Session.Abreast d start) (Rebased path found []) left
      (value.convertWith (expandWithin catalogue limit) node [] [])) :
    Action.Shadows side (Session.Abreast d start) (Close found) left
      (convertResolved catalogue limit (.provider d.provider id) node value path found) := by
  rw [convertResolved_delegated able delegating plainly, ← bind_pure left]
  refine .bind rebased ?_
  rintro _ _ ⟨result, _⟩
  dsimp only
  split
  · next none =>
      rw [List.isEmpty_iff.mp none, located_nil, List.append_nil]
      exact .pure (.mk List.prefix_rfl (fun _ => rfl))
  · next some =>
      refine shadows_write (.pure (.mk (List.prefix_append _ _) (fun none => ?_))) _ _ _
      have clean := located_eq_nil.mp (List.append_eq_nil_iff.mp none).2
      exact absurd (List.isEmpty_iff.mpr clean) some

/-- One expansion is spent on the reference to a part that is not delegated otherwise. -/
theorem expandWithin_here (able : d.provider.Able)
    (delegating : catalogue d.provider.key = .delegating)
    (resolves : catalogue.ResolvesAbreast d start) (converts : catalogue.ConvertsAbreast d start)
    (plainly : catalogue.ResolvesPlainly) (objects : start.registry.HoldsObjects)
    {limit fewer : Nat} (within : side.Within limit fewer) {spec : Value} {node : Descriptor}
    (portable : spec.Portable)
    (reads : ∀ session, start.Steady session →
      (spec.parse [] none).run.run session = (.ok node, session))
    (tolerated : start.ToleratesNode d node) (id : Nat) (value : Value) (path : Location)
    (found : List Failure) :
    Action.Shadows side (Session.Abreast d start) (Close found)
      (value.convertWith (expandWithin catalogue limit) node path found)
      (expandWithin catalogue (fewer + 1) (.provider d.provider id)
        [(.text Behaviour.delegatedOption, spec.freeze)] value path found) := by
  rw [expandWithin_succ, Catalogue.resolve_delegated able delegating portable]
  have rebased := value.convertWith_rebased
    (expandWithin_rebases resolves converts objects within path found) node tolerated [] []
  rw [List.append_nil, located_nil, List.append_nil] at rebased
  refine .skip (fun first second abreast => ?_)
    (convertResolved_close able delegating plainly rebased)
  have read := reads second abreast.steady_right
  refine ⟨congrArg Prod.fst read, ?_⟩
  rw [show (spec.parse [] none).after second = second from congrArg Prod.snd read]
  exact abreast

/-- One expansion is spent on either side, where the part of a delegated part is delegated. -/
theorem expandWithin_inside (able : d.provider.Able)
    (delegating : catalogue d.provider.key = .delegating)
    (objects : start.registry.HoldsObjects) {less fewer : Nat}
    (nested : ∀ node other, Descriptor.Stands d start node other →
      Alike side d start (expandWithin catalogue less) (expandWithin catalogue fewer) node other)
    {before after : Entries} (first : before.get? Behaviour.delegatedOption = none)
    {given wrapped : Value} (portable : given.Portable ∧ wrapped.Portable)
    (tolerated : Entries.Hold (start.Tolerates d) (before ++ after))
    (wraps : Shorthand.Wraps d start .free [] given wrapped) (id : Nat) (value : Value)
    (path : Location) (found : List Failure) :
    Action.Shadows side (Session.Abreast d start) (Close found)
      (expandWithin catalogue (less + 1) (.provider d.provider id)
        (before ++ (.text Behaviour.delegatedOption, given.freeze) :: after) value path found)
      (expandWithin catalogue (fewer + 1) (.provider d.provider id)
        (before ++ (.text Behaviour.delegatedOption, wrapped.freeze) :: after) value path
        found) := by
  rw [expandWithin_succ, expandWithin_succ]
  refine .bind (.of_agree (Catalogue.resolve_inside able delegating objects first portable
    tolerated wraps id)) (fun node other inner => ?_)
  have rebased := convertResolved_rebased [] path [] found
    (catalogue.convertValue_delegated_shadows able delegating id
      ((nested node other inner).completeConversion value))
  rw [List.nil_append, List.nil_append, located_at_root] at rebased
  exact rebased.weaken Close.of_rebased

/-- With a part delegated, values convert alike. -/
theorem Descriptor.Stands.alikeWithin (able : d.provider.Able)
    (delegating : catalogue d.provider.key = .delegating)
    (resolves : catalogue.ResolvesAbreast d start) (converts : catalogue.ConvertsAbreast d start)
    (plainly : catalogue.ResolvesPlainly) (objects : start.registry.HoldsObjects)
    {limit further : Nat} (beyond : side.Beyond limit further) {node other : Descriptor}
    (stands : Stands d start node other) :
    Alike side d start (expandWithin catalogue limit) (expandWithin catalogue further) node
      other := by
  induction limit using Nat.strongRecOn generalizing further node other with
  | ind limit induction =>
      refine stands.alike (expandWithin_rebases resolves converts objects beyond.within [] []) ?_
      intro node provider options refers value path found
      rw [Value.convertWith_ref]
      cases refers with
      | here portable reads tolerated checked =>
          rcases beyond.cases_right with out | ⟨fewer, rfl, within⟩
          · exact .spent out False.elim (fun zero => by rw [zero]; rfl)
          · exact expandWithin_here able delegating resolves converts plainly objects within
              portable reads tolerated _ value path found
      | inside first portable tolerated wraps =>
          rw [Value.convertWith_ref]
          rcases beyond.cases_both with out | ⟨less, fewer, rfl, rfl, smaller⟩
          · exact .spent out (fun zero => by rw [zero]; rfl) (fun zero => by rw [zero]; rfl)
          · exact expandWithin_inside able delegating objects
              (fun _ _ => induction less (Nat.lt_succ_self less) smaller) first portable tolerated
              wraps _ value path found

end Delegated

end RecordSchema
