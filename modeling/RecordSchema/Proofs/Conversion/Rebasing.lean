import RecordSchema.Proofs.Conversion.Contract
import RecordSchema.Proofs.Conversion.Problems
import RecordSchema.Proofs.Document.Delegation

namespace RecordSchema

/-! A conversion at a place runs as it would at the root, with the failures moved to the
place.  This holds across two sessions that are abreast and two limits of expansion. -/

/-- What came of a conversion at a place, after earlier failures, and of the same one at the root,
after others: one value, and failures that were added there and moved here. -/
inductive Rebased (outer : Location) (found more : List Failure) :
    α × List Failure → α × List Failure → Prop where
  | mk (value : α) {later : List Failure} (grows : more <+: later) :
      Rebased outer found more (value, found ++ located outer later) (value, later)

namespace Rebased

variable {outer : Location} {found more : List Failure}

protected theorem refl (value : α) :
    Rebased outer found more (value, found ++ located outer more) (value, more) :=
  .mk value List.prefix_rfl

theorem add (value : α) (added : List Failure) :
    Rebased outer found more (value, found ++ located outer more ++ located outer added)
      (value, more ++ added) := by
  rw [List.append_assoc, ← located_append]
  exact .mk value (List.prefix_append more added)

theorem after {later : List Failure} (grows : more <+: later) (result other : α × List Failure)
    (rebased : Rebased outer found later result other) :
    Rebased outer found more result other := by
  obtain ⟨value, further⟩ := rebased
  exact .mk value (grows.trans further)

end Rebased

/-- References are expanded alike at a place and at the root. -/
def Rebases (side : Side) (d : Delegate) (start : Session) (outer : Location)
    (found : List Failure) (expand further : Expansion) : Prop :=
  ∀ provider options, start.ToleratesNode d (.ref provider options) → ∀ value inner more,
    Action.Shadows side (Session.Abreast d start) (Rebased outer found more)
      (expand provider options value (outer ++ inner) (found ++ located outer more))
      (further provider options value inner more)

section Walking

variable {side : Side} {d : Delegate} {start : Session} {outer : Location}
  {found : List Failure} {expand further : Expansion}

theorem Value.convertWith_ref (value provider : Value) (options : Entries) (path : Location)
    (found : List Failure) :
    value.convertWith expand (.ref provider options) path found =
      expand provider options value path found := by
  cases value <;> rfl

theorem convertWhole_rebased (rebases : Rebases side d start outer found expand further)
    (node : Descriptor) (tolerated : start.ToleratesNode d node) (value : Value)
    (inner : Location) (more : List Failure) :
    Action.Shadows side (Session.Abreast d start) (Rebased outer found more)
      (convertWhole expand node value (outer ++ inner) (found ++ located outer more))
      (convertWhole further node value inner more) := by
  cases node with
  | primitive options => exact .pure (.refl value)
  | mapping fields nullable =>
      unfold convertWhole
      dsimp only
      split
      · exact .pure (.refl Value.null)
      · rw [← located_shapeMismatch]
        exact .pure (.add Value.null _)
  | array element options =>
      unfold convertWhole
      dsimp only
      split
      · exact .pure (.refl Value.null)
      · rw [← located_shapeMismatch]
        exact .pure (.add Value.null _)
  | ref provider options => exact rebases provider options tolerated value inner more
  | foreign given => exact .throw _

mutual
theorem Value.convertWith_rebased (rebases : Rebases side d start outer found expand further) :
    (value : Value) → (node : Descriptor) → start.ToleratesNode d node →
      (inner : Location) → (more : List Failure) →
      Action.Shadows side (Session.Abreast d start) (Rebased outer found more)
        (value.convertWith expand node (outer ++ inner) (found ++ located outer more))
        (value.convertWith further node inner more)
  | .map kind entries, node, tolerated, inner, more => by
      have whole := convertWhole_rebased rebases node tolerated (.map kind entries) inner more
      cases node with
      | mapping fields nullable =>
          refine .bind (convertEntries_rebased rebases entries fields
            (Session.toleratesNode_mapping.mp tolerated) inner [] more) ?_
          rintro _ _ ⟨record, grows⟩
          exact .pure (.mk (Value.map .record record) grows)
      | _ => exact whole
  | .list items, node, tolerated, inner, more => by
      have whole := convertWhole_rebased rebases node tolerated (.list items) inner more
      cases node with
      | array element options =>
          refine .bind (convertItems_rebased rebases items element tolerated inner 0 more) ?_
          rintro _ _ ⟨values, grows⟩
          exact .pure (.mk (Value.list values) grows)
      | _ => exact whole
  | .tuple items, node, tolerated, inner, more => by
      have whole := convertWhole_rebased rebases node tolerated (.tuple items) inner more
      cases node with
      | array element options =>
          refine .bind (convertItems_rebased rebases items element tolerated inner 0 more) ?_
          rintro _ _ ⟨values, grows⟩
          exact .pure (.mk (Value.list values) grows)
      | _ => exact whole
  | .null, node, tolerated, inner, more | .bool _, node, tolerated, inner, more
  | .number _, node, tolerated, inner, more | .text _, node, tolerated, inner, more
  | .bytes _ _, node, tolerated, inner, more | .set _ _, node, tolerated, inner, more
  | .date _ _ _, node, tolerated, inner, more | .moment _, node, tolerated, inner, more
  | .providerClass _, node, tolerated, inner, more | .provider _ _, node, tolerated, inner, more
  | .descriptor _, node, tolerated, inner, more | .field _, node, tolerated, inner, more
  | .options _, node, tolerated, inner, more | .other _, node, tolerated, inner, more =>
      convertWhole_rebased rebases node tolerated _ inner more
termination_by structural value => value

theorem convertEntries_rebased (rebases : Rebases side d start outer found expand further) :
    (entries : List (Value × Value)) → (fields : List Field) →
      (∀ field ∈ fields, start.ToleratesNode d field.descriptor) →
      (inner : Location) → (record : Entries) → (more : List Failure) →
      Action.Shadows side (Session.Abreast d start) (Rebased outer found more)
        (convertEntries expand entries fields (outer ++ inner) record
          (found ++ located outer more))
        (convertEntries further entries fields inner record more)
  | [], _, _, _, record, _ => .pure (.refl record)
  | (key, item) :: rest, fields, tolerated, inner, record, more => by
      rw [convertEntries, convertEntries]
      cases belongs : Field.ofKey? fields key with
      | none =>
          have tail := convertEntries_rebased rebases rest fields tolerated inner record
            (more ++ [.unknownField (inner ++ [key]) key.display])
          rw [located_append, located_unknownField, ← List.append_assoc] at tail
          exact tail.weaken (Rebased.after (List.prefix_append more _))
      | some field =>
          have kept := tolerated field (Field.ofKey?_eq_some belongs).1
          dsimp only
          rw [List.append_assoc outer inner [key]]
          refine .bind (item.convertWith_rebased rebases field.descriptor kept _ more) ?_
          rintro _ _ ⟨value, grows⟩
          exact (convertEntries_rebased rebases rest fields tolerated inner _ _).weaken
            (Rebased.after grows)
termination_by structural entries => entries

theorem convertItems_rebased (rebases : Rebases side d start outer found expand further) :
    (items : List Value) → (element : Descriptor) → start.ToleratesNode d element →
      (inner : Location) → (position : Nat) → (more : List Failure) →
      Action.Shadows side (Session.Abreast d start) (Rebased outer found more)
        (convertItems expand items element (outer ++ inner) position
          (found ++ located outer more))
        (convertItems further items element inner position more)
  | [], _, _, _, _, _ => .pure (.refl [])
  | item :: rest, element, tolerated, inner, position, more => by
      rw [convertItems, convertItems, List.append_assoc outer inner]
      refine .bind (item.convertWith_rebased rebases element tolerated _ more) ?_
      rintro _ _ ⟨value, grows⟩
      refine .bind (convertItems_rebased rebases rest element tolerated inner _ _) ?_
      rintro _ _ ⟨values, further⟩
      exact .pure (.mk (value :: values) (grows.trans further))
termination_by structural items => items
end

end Walking

/-! ### Conversion by providers -/

/-- What providers convert to depends on the sessions no more than what they resolve to does, as
long as the conversion that they are handed does not. -/
def Catalogue.ConvertsAbreast (catalogue : Catalogue) (d : Delegate) (start : Session) :
    Prop :=
  ∀ side key id convert further resolved value, start.ToleratesNode d resolved →
    (∀ node item, start.ToleratesNode d node →
      Action.Shadows side (Session.Abreast d start) Eq (convert node item) (further node item)) →
    Action.Shadows side (Session.Abreast d start) Eq
      ((catalogue key).convertValue convert id resolved value)
      ((catalogue key).convertValue further id resolved value)

section Converting

variable {catalogue : Catalogue} {d : Delegate} {start : Session} {side : Side}

theorem completeConversion_shadows {expand further : Expansion}
    (rebases : Rebases side d start [] [] expand further) (node : Descriptor) (value : Value)
    (tolerated : start.ToleratesNode d node) :
    Action.Shadows side (Session.Abreast d start) Eq (completeConversion expand node value)
      (completeConversion further node value) := by
  refine .bind (value.convertWith_rebased rebases node tolerated [] []) ?_
  rintro _ _ ⟨result, _⟩
  rw [List.nil_append, located_at_root]
  dsimp only
  split
  · exact .pure rfl
  · exact .bind (write_shadows _ _ _ _) (fun _ _ _ => .throw _)

theorem Catalogue.convertValue_shadows (converts : catalogue.ConvertsAbreast d start)
    {convert further : Descriptor → Value → Action Value} {provider : Value} {options : Entries}
    (given : start.ToleratesNode d (.ref provider options)) {resolved : Descriptor}
    (tolerated : start.ToleratesNode d resolved) (value : Value)
    (alike : ∀ node item, start.ToleratesNode d node →
      Action.Shadows side (Session.Abreast d start) Eq (convert node item) (further node item)) :
    Action.Shadows side (Session.Abreast d start) Eq
      (catalogue.convertValue convert provider resolved value)
      (catalogue.convertValue further provider resolved value) := by
  have conforms : provider.conform.Accords (Session.Abreast d start) Value.IsObject := by
    rcases (Session.toleratesNode_ref given).1 with among | object
    · exact among.conform
    · exact object.conform
  refine .bind (.of_agree conforms) ?_
  rintro used _ ⟨rfl, _⟩
  cases used with
  | provider c id => exact converts side c.key id convert further resolved value tolerated alike
  | _ => exact .throw _

theorem convertResolved_rebased {limit other : Nat} {provider : Value} {resolved node : Descriptor}
    {value : Value} (outer inner : Location) (found more : List Failure)
    (converts : Action.Shadows side (Session.Abreast d start) Eq
      (catalogue.convertValue (completeConversion (expandWithin catalogue limit)) provider
        resolved value)
      (catalogue.convertValue (completeConversion (expandWithin catalogue other)) provider
        node value)) :
    Action.Shadows side (Session.Abreast d start) (Rebased outer found more)
      (convertResolved catalogue limit provider resolved value (outer ++ inner)
        (found ++ located outer more))
      (convertResolved catalogue other provider node value inner more) := by
  refine .tryCatch (.bind converts ?_) (fun error => ?_) rfl rfl
  · rintro result _ rfl
    exact .pure (.refl result)
  · cases error with
    | conversion failures reason =>
        dsimp only
        rw [← located_providerFailures]
        exact .pure (.add Value.null _)
    | _ => exact .throw _

theorem expandWithin_rebases (resolves : catalogue.ResolvesAbreast d start)
    (converts : catalogue.ConvertsAbreast d start) (objects : start.registry.HoldsObjects)
    {limit other : Nat} (within : side.Within limit other) (outer : Location)
    (found : List Failure) :
    Rebases side d start outer found (expandWithin catalogue limit)
      (expandWithin catalogue other) := by
  induction limit using Nat.strongRecOn generalizing other outer found with
  | ind limit induction =>
      intro provider options given value inner more
      rcases within.cases with out | ⟨less, fewer, rfl, rfl, smaller⟩
      · exact .spent out (fun zero => by rw [zero]; rfl) (fun zero => by rw [zero]; rfl)
      · rw [expandWithin_succ, expandWithin_succ]
        refine .bind (.of_agree (catalogue.resolve_accords resolves objects given)) ?_
        rintro resolved _ ⟨rfl, kept⟩
        refine convertResolved_rebased outer inner found more ?_
        refine catalogue.convertValue_shadows converts given kept value
          (fun node item tolerated => ?_)
        exact completeConversion_shadows
          (induction less (Nat.lt_succ_self less) smaller [] []) node item tolerated

end Converting

end RecordSchema
