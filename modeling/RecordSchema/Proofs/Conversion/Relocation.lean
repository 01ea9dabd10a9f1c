import RecordSchema.Proofs.Conversion.Contract
import RecordSchema.Proofs.Conversion.Problems

namespace RecordSchema

/-! A conversion does not depend on where it happens.  At a place and after earlier failures it
runs as it does at the root and after none, and its failures are moved to the place. -/

/-- What was converted at the root, seen at a place and after earlier failures. -/
def Action.moved (action : Action (α × List Failure)) (path : Location)
    (found : List Failure) : Action (α × List Failure) :=
  action >>= fun converted => pure (converted.1, found ++ located path converted.2)

namespace Action

variable (path : Location) (found : List Failure)

@[simp] theorem moved_pure (value : α) (later : List Failure) :
    moved (pure (value, later)) path found = pure (value, found ++ located path later) := rfl

theorem moved_bind (action : Action α) (next : α → Action (β × List Failure)) :
    moved (action >>= next) path found = action >>= fun value => (next value).moved path found :=
  bind_assoc _ _ _

theorem bind_moved (action : Action (α × List Failure)) (next : α × List Failure → Action β) :
    action.moved path found >>= next =
      action >>= fun converted => next (converted.1, found ++ located path converted.2) :=
  bind_assoc _ _ _

theorem moved_moved (action : Action (α × List Failure)) (inner : Location)
    (more : List Failure) :
    (action.moved inner more).moved path found =
      action.moved (path ++ inner) (found ++ located path more) := by
  unfold moved
  rw [bind_assoc]
  apply bind_congr
  intro converted
  rw [pure_bind, located_append, located_located, List.append_assoc]

theorem outcome_moved (action : Action (α × List Failure)) (session : Session) :
    (action.moved path found).outcome session =
      (action.outcome session).map
        (fun converted => (converted.1, found ++ located path converted.2)) := by
  rw [moved, outcome_bind]
  cases action.outcome session <;> rfl

theorem after_moved (action : Action (α × List Failure)) (session : Session) :
    (action.moved path found).after session = action.after session := by
  rw [moved, after_bind]
  cases action.outcome session <;> rfl

/-- What is attempted and what is done about errors are moved together. -/
theorem moved_tryCatch {first attempt : Action (α × List Failure)}
    {handle further : Error → Action (α × List Failure)}
    (attempts : first.moved path found = attempt)
    (handles : ∀ error, (handle error).moved path found = further error) :
    (tryCatch first handle).moved path found = tryCatch attempt further := by
  subst attempts
  funext session
  apply Prod.ext
  · change (moved (tryCatch first handle) path found).outcome session = outcome _ session
    rw [outcome_moved, outcome_tryCatch, outcome_tryCatch, outcome_moved, after_moved]
    cases first.outcome session with
    | ok converted => rfl
    | error error =>
        change ((handle error).outcome _).map _ = (further error).outcome _
        rw [← handles, outcome_moved]
  · change (moved (tryCatch first handle) path found).after session = after _ session
    rw [after_moved, after_tryCatch, after_tryCatch, outcome_moved, after_moved]
    cases first.outcome session with
    | ok converted => rfl
    | error error =>
        change (handle error).after _ = (further error).after _
        rw [← handles, after_moved]

end Action

/-- References are expanded at a place as at the root. -/
def Expansion.Movable (expand : Expansion) : Prop :=
  ∀ provider options value path found,
    expand provider options value path found =
      (expand provider options value [] []).moved path found

section Walking

variable {expand : Expansion}

theorem convertWhole_moved (movable : expand.Movable) (node : Descriptor) (value : Value)
    (path : Location) (found : List Failure) :
    convertWhole expand node value path found =
      (convertWhole expand node value [] []).moved path found := by
  cases node with
  | primitive options => simp [convertWhole]
  | mapping fields nullable =>
      unfold convertWhole
      dsimp only
      split
      · simp
      · simp [located_shapeMismatch]
  | array element options =>
      unfold convertWhole
      dsimp only
      split
      · simp
      · simp [located_shapeMismatch]
  | ref provider options => exact movable provider options value path found
  | foreign given => rfl

mutual
theorem Value.convertWith_moved (movable : expand.Movable) : (value : Value) →
    (node : Descriptor) → (path : Location) → (found : List Failure) →
    value.convertWith expand node path found =
      (value.convertWith expand node [] []).moved path found
  | .map kind entries, node, path, found => by
      have whole := convertWhole_moved movable node (.map kind entries) path found
      cases node with
      | mapping fields nullable =>
          rw [Value.convertWith, Value.convertWith, Action.moved_bind,
            convertEntries_moved movable entries fields path [] found, Action.bind_moved]
          rfl
      | _ => exact whole
  | .list items, node, path, found => by
      have whole := convertWhole_moved movable node (.list items) path found
      cases node with
      | array element options =>
          rw [Value.convertWith, Value.convertWith, Action.moved_bind,
            convertItems_moved movable items element path 0 found, Action.bind_moved]
          rfl
      | _ => exact whole
  | .tuple items, node, path, found => by
      have whole := convertWhole_moved movable node (.tuple items) path found
      cases node with
      | array element options =>
          rw [Value.convertWith, Value.convertWith, Action.moved_bind,
            convertItems_moved movable items element path 0 found, Action.bind_moved]
          rfl
      | _ => exact whole
  | .null, node, path, found | .bool _, node, path, found | .number _, node, path, found
  | .text _, node, path, found | .bytes _ _, node, path, found | .set _ _, node, path, found
  | .date _ _ _, node, path, found | .moment _, node, path, found
  | .providerClass _, node, path, found | .provider _ _, node, path, found
  | .descriptor _, node, path, found | .field _, node, path, found
  | .options _, node, path, found | .other _, node, path, found =>
      convertWhole_moved movable node _ path found
termination_by structural value => value

theorem convertEntries_moved (movable : expand.Movable) : (entries : List (Value × Value)) →
    (fields : List Field) → (path : Location) → (record : Entries) → (found : List Failure) →
    convertEntries expand entries fields path record found =
      (convertEntries expand entries fields [] record []).moved path found
  | [], _, _, _, found => by simp [convertEntries]
  | (key, item) :: rest, fields, path, record, found => by
      rw [convertEntries, convertEntries]
      cases Field.ofKey? fields key with
      | none =>
          have here : located path [.unknownField [key] key.display] = _ :=
            located_unknownField path [] key key.display
          dsimp only
          rw [convertEntries_moved movable rest fields path,
            convertEntries_moved movable rest fields [] record ([] ++ _), Action.moved_moved]
          simp [here]
      | some field =>
          dsimp only
          rw [item.convertWith_moved movable field.descriptor (path ++ [key]),
            item.convertWith_moved movable field.descriptor ([] ++ [key]), Action.bind_moved,
            Action.bind_moved, Action.moved_bind]
          apply bind_congr
          intro converted
          dsimp only
          -- On either side the rest comes after the failures of the item.
          rw [convertEntries_moved movable rest fields path,
            convertEntries_moved movable rest fields [] _ ([] ++ _), Action.moved_moved]
          simp [located_located]
termination_by structural entries => entries

theorem convertItems_moved (movable : expand.Movable) : (items : List Value) →
    (element : Descriptor) → (path : Location) → (position : Nat) → (found : List Failure) →
    convertItems expand items element path position found =
      (convertItems expand items element [] position []).moved path found
  | [], _, _, _, found => by simp [convertItems]
  | item :: rest, element, path, position, found => by
      rw [convertItems, convertItems,
        item.convertWith_moved movable element (path ++ [Value.int position]),
        item.convertWith_moved movable element ([] ++ [Value.int position]), Action.bind_moved,
        Action.bind_moved, Action.moved_bind]
      apply bind_congr
      intro converted
      dsimp only
      rw [convertItems_moved movable rest element path,
        convertItems_moved movable rest element [] _ ([] ++ _), Action.bind_moved,
        Action.bind_moved, Action.moved_bind]
      apply bind_congr
      intro others
      simp [located_located]
termination_by structural items => items
end

end Walking

/-! ### Conversion by providers -/

/-- A provider starts a conversion of its own, at the root; only what it raises is moved. -/
theorem convertResolved_moved (catalogue : Catalogue) (limit : Nat) (provider : Value)
    (resolved : Descriptor) (value : Value) (path : Location) (found : List Failure) :
    convertResolved catalogue limit provider resolved value path found =
      (convertResolved catalogue limit provider resolved value [] []).moved path found := by
  unfold convertResolved
  symm
  apply Action.moved_tryCatch
  case attempts =>
    apply (Action.moved_bind path found _ _).trans
    apply bind_congr
    intro result
    rw [Action.moved_pure, located_nil, List.append_nil]
  case handles =>
    intro error
    cases error with
    | conversion failures reason =>
        dsimp only
        rw [Action.moved_pure, List.nil_append, located_providerFailures, List.append_nil]
    | _ => rfl

theorem expandWithin_movable (catalogue : Catalogue) (limit : Nat) :
    (expandWithin catalogue limit).Movable := by
  intro provider options value path found
  cases limit with
  | zero => rfl
  | succ limit =>
      rw [expandWithin_succ, expandWithin_succ, Action.moved_bind]
      apply bind_congr
      intro resolved
      exact convertResolved_moved catalogue limit provider resolved value path found

/-- Whatever the providers do, a conversion at a place and after earlier failures raises what it
raises at the root, or gives the same value and adds the failures found there, each with its path
put behind the place and all else as it was.  Either way the session is left the same. -/
theorem Value.converts_alike_anywhere (catalogue : Catalogue) (limit : Nat) (node : Descriptor)
    (value : Value) (path : Location) (found : List Failure) (session : Session) :
    let placed := value.convertWith (expandWithin catalogue limit) node path found
    let alone := value.convertWith (expandWithin catalogue limit) node [] []
    placed.outcome session =
        (alone.outcome session).map (fun converted =>
          (converted.1, found ++ converted.2.map (fun failure =>
            { failure with path := path ++ failure.path }))) ∧
      placed.after session = alone.after session := by
  intro placed alone
  have moved : placed = alone.moved path found :=
    value.convertWith_moved (expandWithin_movable catalogue limit) node path found
  constructor
  · rw [moved]
    exact Action.outcome_moved path found alone session
  · rw [moved]
    exact Action.after_moved path found alone session

end RecordSchema
