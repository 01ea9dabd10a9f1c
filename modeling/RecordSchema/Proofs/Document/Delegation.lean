import RecordSchema.Proofs.Descriptor.Delegation

namespace RecordSchema

/-! A delegated part compiles to the document of the part, as long as there are expansions left
for its reference. -/

/-! ### Limits -/

namespace Side

/-- The one on the side has no more expansions than the other. -/
def Within : Side → Nat → Nat → Prop
  | .left, limit, other => limit ≤ other
  | .right, limit, other => other ≤ limit

/-- The one on the side has no more expansions than the other, and on the left it has fewer. -/
def Beyond : Side → Nat → Nat → Prop
  | .left, limit, other => limit < other
  | .right, limit, other => other ≤ limit

variable {side : Side} {limit other : Nat}

theorem Within.cases (within : side.Within limit other) :
    side.picks (limit = 0) (other = 0) ∨
      ∃ less fewer, limit = less + 1 ∧ other = fewer + 1 ∧ side.Within less fewer := by
  cases limit with
  | zero =>
      cases side with
      | left => exact .inl rfl
      | right => exact .inl (Nat.le_zero.mp within)
  | succ less =>
      cases other with
      | zero =>
          cases side with
          | left => exact absurd within (Nat.not_succ_le_zero less)
          | right => exact .inl rfl
      | succ fewer =>
          refine .inr ⟨less, fewer, rfl, rfl, ?_⟩
          cases side with
          | left => exact Nat.le_of_succ_le_succ within
          | right => exact Nat.le_of_succ_le_succ within

theorem Beyond.within (beyond : side.Beyond limit other) : side.Within limit other := by
  cases side with
  | left => exact Nat.le_of_lt beyond
  | right => exact beyond

/-- One expansion is spent on the second side only. -/
theorem Beyond.cases_right (beyond : side.Beyond limit other) :
    side.picks False (other = 0) ∨ ∃ fewer, other = fewer + 1 ∧ side.Within limit fewer := by
  cases other with
  | zero =>
      cases side with
      | left => exact absurd beyond (Nat.not_lt_zero limit)
      | right => exact .inl rfl
  | succ fewer =>
      refine .inr ⟨fewer, rfl, ?_⟩
      cases side with
      | left => exact Nat.le_of_lt_succ beyond
      | right => exact Nat.le_of_succ_le beyond

/-- One expansion is spent on both sides. -/
theorem Beyond.cases_both (beyond : side.Beyond limit other) :
    side.picks (limit = 0) (other = 0) ∨
      ∃ less fewer, limit = less + 1 ∧ other = fewer + 1 ∧ side.Beyond less fewer := by
  rcases beyond.within.cases with out | ⟨less, fewer, rfl, rfl, _⟩
  · exact .inl out
  · refine .inr ⟨less, fewer, rfl, rfl, ?_⟩
    cases side with
    | left => exact Nat.lt_of_succ_lt_succ beyond
    | right => exact Nat.le_of_succ_le_succ beyond

end Side

/-- The one on the side has no expansion left. -/
theorem Action.Shadows.spent {side : Side} {states : Session → Session → Prop}
    {values : α → β → Prop} {left : Action α} {right : Action β} {here there : Prop}
    (out : side.picks here there) (left_out : here → left = Action.fault .recursion)
    (right_out : there → right = Action.fault .recursion) :
    Shadows side states values left right := by
  intro first second _
  refine .inl (side.picks_imp (fun given => ?_) (fun given => ?_) out)
  · rw [left_out given]
    rfl
  · rw [right_out given]
    rfl

/-! ### The same node with other limits -/

section Same

variable {catalogue : Catalogue} {d : Delegate} {start : Session} {side : Side}
  {expand further : Value → Entries → Action Document}

theorem write_shadows (logger : String) (level : Nat) (message text : String) :
    Action.Shadows side (Session.Abreast d start) Eq (Action.write logger level message)
      (Action.write logger level text) :=
  fun _ _ abreast => .inr ⟨.ok rfl, abreast.of_same ⟨⟨rfl, rfl⟩, rfl⟩ ⟨⟨rfl, rfl⟩, rfl⟩⟩

/-- A line of the second log only. -/
theorem shadows_write {values : α → β → Prop} {left : Action α} {right : Action β}
    (rest : Action.Shadows side (Session.Abreast d start) values left right) (logger : String)
    (level : Nat) (message : String) :
    Action.Shadows side (Session.Abreast d start) values left
      (Action.write logger level message >>= fun _ => right) :=
  .skip (fun _ _ abreast => ⟨rfl, abreast.of_same ⟨⟨rfl, rfl⟩, rfl⟩ ⟨⟨rfl, rfl⟩, rfl⟩⟩) rest

mutual
theorem Descriptor.compileWith_shadows
    (expands : ∀ provider options, start.ToleratesNode d (.ref provider options) →
      Action.Shadows side (Session.Abreast d start) Eq (expand provider options)
        (further provider options)) :
    (node : Descriptor) → start.ToleratesNode d node →
      Action.Shadows side (Session.Abreast d start) Eq (node.compileWith expand)
        (node.compileWith further)
  | .primitive _, _ => .pure rfl
  | .mapping fields nullable, tolerated => by
      refine .bind (compileFieldsWith_shadows expands fields
        (Session.toleratesNode_mapping.mp tolerated)) ?_
      rintro properties _ rfl
      exact .pure rfl
  | .array element options, tolerated => by
      refine .bind (element.compileWith_shadows expands tolerated) ?_
      rintro items _ rfl
      exact .pure rfl
  | .ref provider options, tolerated => expands provider options tolerated
  | .foreign _, _ => .throw _
termination_by structural node => node

theorem compileFieldsWith_shadows
    (expands : ∀ provider options, start.ToleratesNode d (.ref provider options) →
      Action.Shadows side (Session.Abreast d start) Eq (expand provider options)
        (further provider options)) :
    (fields : List Field) → (∀ field ∈ fields, start.ToleratesNode d field.descriptor) →
      Action.Shadows side (Session.Abreast d start) Eq (compileFieldsWith expand fields)
        (compileFieldsWith further fields)
  | [], _ => .pure rfl
  | ⟨_, descriptor, _, _⟩ :: rest, tolerated => by
      have both := List.forall_mem_cons.mp tolerated
      refine .bind (descriptor.compileWith_shadows expands both.1) ?_
      rintro document _ rfl
      refine .bind (compileFieldsWith_shadows expands rest both.2) ?_
      rintro properties _ rfl
      exact .pure rfl
termination_by structural fields => fields
end

/-- The document of a reference, with so many expansions left. -/
def Catalogue.document (catalogue : Catalogue) : Nat → Value → Entries → Action Document
  | 0, _, _ => Action.fault .recursion
  | limit + 1, provider, options => do
      let resolved ← catalogue.resolve provider options
      Action.write Descriptor.compilerLogger Log.debug
        s!"Resolved provider {provider.providerName} to {resolved.typeName}"
      resolved.compileWithin catalogue limit

theorem Descriptor.compileWithin_eq (limit : Nat) (node : Descriptor) :
    node.compileWithin catalogue limit = node.compileWith (catalogue.document limit) := by
  cases limit with
  | zero => rfl
  | succ limit => rfl

theorem Descriptor.compileWithin_shadows (resolves : catalogue.ResolvesAbreast d start)
    (objects : start.registry.HoldsObjects) {limit other : Nat}
    (within : side.Within limit other) {node : Descriptor}
    (tolerated : start.ToleratesNode d node) :
    Action.Shadows side (Session.Abreast d start) Eq (node.compileWithin catalogue limit)
      (node.compileWithin catalogue other) := by
  induction limit using Nat.strongRecOn generalizing other node with
  | ind limit induction =>
      rw [compileWithin_eq, compileWithin_eq]
      refine node.compileWith_shadows (fun provider options given => ?_) tolerated
      rcases within.cases with out | ⟨less, fewer, rfl, rfl, smaller⟩
      · exact .spent out (fun zero => by rw [zero]; rfl) (fun zero => by rw [zero]; rfl)
      · refine .bind (.of_agree (catalogue.resolve_accords resolves objects given)) ?_
        rintro resolved _ ⟨rfl, kept⟩
        refine .bind (write_shadows _ _ _ _) (fun _ _ _ => ?_)
        exact induction less (Nat.lt_succ_self less) smaller kept

end Same

/-! ### Delegated parts -/

section Delegated

variable {catalogue : Catalogue} {d : Delegate} {start : Session} {side : Side}

/-- Resolving a reference to the delegating provider reads the part that it was given. -/
theorem Catalogue.resolve_delegated (able : d.provider.Able)
    (delegating : catalogue d.provider.key = .delegating) {spec : Value} (portable : spec.Portable)
    (id : Nat) :
    catalogue.resolve (.provider d.provider id) [(.text Behaviour.delegatedOption, spec.freeze)] =
      spec.parse [] none := by
  have delivered : Entries.delivery [(.text Behaviour.delegatedOption, spec.freeze)] =
      pure [(.text Behaviour.delegatedOption, spec)] :=
    Entries.delivery_hole portable [] [] _
  rw [resolve, able.conform_object, pure_bind, delivered]
  dsimp only
  rw [delegating]
  rfl

/-- Of what a delegated part is given, the provider takes the part. -/
theorem Catalogue.resolve_inside (able : d.provider.Able)
    (delegating : catalogue d.provider.key = .delegating) (objects : start.registry.HoldsObjects)
    {before after : Entries} (first : before.get? Behaviour.delegatedOption = none)
    {given wrapped : Value} (portable : given.Portable ∧ wrapped.Portable)
    (tolerated : Entries.Hold (start.Tolerates d) (before ++ after))
    (wraps : Shorthand.Wraps d start .free [] given wrapped) (id : Nat) :
    Agree (Session.Abreast d start) Eq (Descriptor.Stands d start)
      (catalogue.resolve (.provider d.provider id)
        (before ++ (.text Behaviour.delegatedOption, given.freeze) :: after))
      (catalogue.resolve (.provider d.provider id)
        (before ++ (.text Behaviour.delegatedOption, wrapped.freeze) :: after)) := by
  rw [resolve, resolve, able.conform_object, pure_bind, pure_bind,
    Entries.delivery_hole portable.1, Entries.delivery_hole portable.2]
  dsimp only
  rw [delegating, Action.copying_map, Action.copying_map, bind_assoc, bind_assoc]
  refine .bind ((Session.copying_accords tolerated (Entries.delivery_sparesShared _)
    Entries.delivery_still).also (Action.copying_yields (Entries.delivery_keyed _))) ?_
  rintro delivered _ ⟨rfl, _, keyed⟩
  have taken (spec : Value) :
      Entries.get? (Entries.putAt before.length (.text Behaviour.delegatedOption) spec delivered)
        Behaviour.delegatedOption = some spec :=
    Entries.get?_hole (keyed.get?_take first) _ _
  simp only [pure_bind, Behaviour.delegating, taken, Option.getD_some]
  exact Value.parse_wraps able objects wraps

theorem requiredKeys_hole (before after : List Field) {name : String}
    {node other : Descriptor} {optional : Bool} {key : Option String} :
    Descriptor.requiredKeys (before ++ ⟨name, node, optional, key⟩ :: after) =
      Descriptor.requiredKeys (before ++ ⟨name, other, optional, key⟩ :: after) := by
  unfold Descriptor.requiredKeys
  cases optional <;> simp [Field.wireKey]

theorem compileFieldsWith_hole {expand further : Value → Entries → Action Document}
    (expands : ∀ provider options, start.ToleratesNode d (.ref provider options) →
      Action.Shadows side (Session.Abreast d start) Eq (expand provider options)
        (further provider options))
    (before after : List Field) {name : String} {node other : Descriptor} {optional : Bool}
    {key : Option String}
    (tolerated : ∀ field ∈ before ++ after, start.ToleratesNode d field.descriptor)
    (compiles : Action.Shadows side (Session.Abreast d start) Eq (node.compileWith expand)
      (other.compileWith further)) :
    Action.Shadows side (Session.Abreast d start) Eq
      (compileFieldsWith expand (before ++ ⟨name, node, optional, key⟩ :: after))
      (compileFieldsWith further (before ++ ⟨name, other, optional, key⟩ :: after)) := by
  induction before with
  | nil =>
      refine .bind compiles ?_
      rintro document _ rfl
      refine .bind (compileFieldsWith_shadows expands after tolerated) ?_
      rintro properties _ rfl
      exact .pure rfl
  | cons field rest induction =>
      obtain ⟨_, descriptor, _, _⟩ := field
      have both := List.forall_mem_cons.mp tolerated
      refine .bind (descriptor.compileWith_shadows expands both.1) ?_
      rintro document _ rfl
      refine .bind (induction both.2) ?_
      rintro properties _ rfl
      exact .pure rfl

theorem Descriptor.Stands.compileWith_shadows
    {expand further : Value → Entries → Action Document}
    (expands : ∀ provider options, start.ToleratesNode d (.ref provider options) →
      Action.Shadows side (Session.Abreast d start) Eq (expand provider options)
        (further provider options))
    (refers : ∀ node provider options, Stands d start node (.ref provider options) →
      Action.Shadows side (Session.Abreast d start) Eq (node.compileWith expand)
        (further provider options))
    {node other : Descriptor} (stands : Stands d start node other) :
    Action.Shadows side (Session.Abreast d start) Eq (node.compileWith expand)
      (other.compileWith further) := by
  induction stands with
  | here portable reads tolerated checked =>
      exact refers _ _ _ (.here portable reads tolerated checked)
  | inside first portable tolerated wraps =>
      exact refers _ _ _ (.inside first portable tolerated wraps)
  | array _ induction =>
      refine .bind induction ?_
      rintro items _ rfl
      exact .pure rfl
  | @mapping before after _ _ _ _ _ nullable tolerated _ induction =>
      refine .bind (compileFieldsWith_hole expands before after tolerated induction) ?_
      rintro properties _ rfl
      simp only [mappingDocument]
      rw [requiredKeys_hole]
      exact .pure rfl

/-- With a part delegated, a description has the same document. -/
theorem Descriptor.Stands.compileWithin_shadows (able : d.provider.Able)
    (delegating : catalogue d.provider.key = .delegating)
    (resolves : catalogue.ResolvesAbreast d start) (objects : start.registry.HoldsObjects)
    {limit further : Nat} (beyond : side.Beyond limit further) {node other : Descriptor}
    (stands : Stands d start node other) :
    Action.Shadows side (Session.Abreast d start) Eq (node.compileWithin catalogue limit)
      (other.compileWithin catalogue further) := by
  induction limit using Nat.strongRecOn generalizing further node other with
  | ind limit induction =>
      rw [compileWithin_eq, compileWithin_eq]
      refine stands.compileWith_shadows (fun provider options given => ?_) ?_
      · have same := Descriptor.compileWithin_shadows resolves objects beyond.within given
        rw [compileWithin_eq, compileWithin_eq] at same
        exact same
      · intro node provider options refers
        cases refers with
        | @here spec _ id portable reads tolerated checked =>
            rcases beyond.cases_right with out | ⟨fewer, rfl, within⟩
            · exact .spent out False.elim (fun zero => by rw [zero]; rfl)
            · rw [← compileWithin_eq, Catalogue.document,
                Catalogue.resolve_delegated able delegating portable]
              refine .skip (fun first second abreast => ?_)
                (shadows_write (Descriptor.compileWithin_shadows resolves objects within tolerated)
                  _ _ _)
              have read := reads second abreast.steady_right
              refine ⟨congrArg Prod.fst read, ?_⟩
              rw [show (spec.parse [] none).after second = second from congrArg Prod.snd read]
              exact abreast
        | inside first portable tolerated wraps =>
            rcases beyond.cases_both with out | ⟨less, fewer, rfl, rfl, smaller⟩
            · exact .spent out (fun zero => by rw [zero]; rfl) (fun zero => by rw [zero]; rfl)
            · change Action.Shadows side (Session.Abreast d start) Eq
                (catalogue.document (less + 1) _ _) (catalogue.document (fewer + 1) _ _)
              refine .bind (.of_agree (Catalogue.resolve_inside able delegating objects first
                portable tolerated wraps _)) ?_
              intro left right inner
              refine .bind (write_shadows _ _ _ _) (fun _ _ _ => ?_)
              exact induction less (Nat.lt_succ_self less) smaller inner

end Delegated

end RecordSchema
