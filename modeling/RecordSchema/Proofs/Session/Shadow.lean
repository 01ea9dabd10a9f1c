import RecordSchema.Proofs.Session.Agreement

namespace RecordSchema

/-! Two actions that run alike, unless one of them, named beforehand, runs out of
expansions. -/

def Exhausted (outcome : Except Error α) : Prop :=
  outcome = .error (.fault .recursion)

theorem not_exhausted_ok (value : α) : ¬ Exhausted (.ok value) :=
  nofun

theorem not_exhausted_conversion (failures : List Failure) (reason : Value) :
    ¬ Exhausted (.error (.conversion failures reason) : Except Error α) :=
  nofun

/-- One of two actions. -/
inductive Side where
  | left
  | right

/-- What is said of the action on the side. -/
def Side.picks (left right : Prop) : Side → Prop
  | .left => left
  | .right => right

theorem Side.picks_imp {left right other further : Prop} (first : left → other)
    (second : right → further) (side : Side) (given : side.picks left right) :
    side.picks other further := by
  cases side with
  | left => exact first given
  | right => exact second given

theorem Exhausted.bind {action : Action α} {session : Session}
    (spent : Exhausted (action.outcome session)) (next : α → Action β) :
    Exhausted ((action >>= next).outcome session) :=
  Action.outcome_bind_of_error spent

/-- Running out of expansions is an error that nobody handles. -/
def Lets (handle : Error → Action α) : Prop :=
  handle (.fault .recursion) = throw (.fault .recursion)

theorem Exhausted.tryCatch {action : Action α} {session : Session}
    (spent : Exhausted (action.outcome session)) {handle : Error → Action α}
    (lets : Lets handle) : Exhausted ((tryCatch action handle).outcome session) := by
  unfold Exhausted at spent
  rw [Action.outcome_tryCatch, spent]
  dsimp only
  rw [lets]
  rfl

/-- From related sessions the actions come to related outcomes and leave related sessions, unless
the one on the side runs out of expansions. -/
def Action.Shadows (side : Side) (states : Session → Session → Prop) (values : α → β → Prop)
    (left : Action α) (right : Action β) : Prop :=
  ∀ first second, states first second →
    side.picks (Exhausted (left.outcome first)) (Exhausted (right.outcome second)) ∨
      (Outcomes Eq values (left.outcome first) (right.outcome second) ∧
        states (left.after first) (right.after second))

namespace Action.Shadows

variable {side : Side} {states : Session → Session → Prop}

theorem of_agree {values : α → β → Prop} {left : Action α} {right : Action β}
    (agree : Agree states Eq values left right) : Shadows side states values left right :=
  fun first second kept => .inr (agree first second kept)

protected theorem pure {values : α → β → Prop} {value : α} {other : β}
    (related : values value other) :
    Shadows side states values (pure value) (pure other) :=
  of_agree (.pure related)

protected theorem throw {values : α → β → Prop} (error : Error) :
    Shadows side states values (throw error : Action α) (throw error : Action β) :=
  of_agree (.throw rfl)

protected theorem bind {values : α → β → Prop} {results : γ → δ → Prop}
    {left : Action α} {right : Action β} {next : α → Action γ} {after : β → Action δ}
    (first : Shadows side states values left right)
    (second : ∀ value other, values value other →
      Shadows side states results (next value) (after other)) :
    Shadows side states results (left >>= next) (right >>= after) := by
  intro here there kept
  rcases first here there kept with spent | ⟨outcomes, later⟩
  · exact .inl (side.picks_imp (Exhausted.bind · next) (Exhausted.bind · after) spent)
  · rcases outcomes.of_eq with ⟨value, other, given, also, related⟩ | ⟨error, failed, also⟩
    · rw [outcome_bind_of_ok given, outcome_bind_of_ok also, after_bind_of_ok given,
        after_bind_of_ok also]
      exact second value other related _ _ later
    · rw [outcome_bind_of_error failed, outcome_bind_of_error also,
        after_bind_of_error failed, after_bind_of_error also]
      exact .inr ⟨.error rfl, later⟩

protected theorem tryCatch {values : α → β → Prop} {left : Action α} {right : Action β}
    {handle : Error → Action α} {further : Error → Action β}
    (first : Shadows side states values left right)
    (second : ∀ error, Shadows side states values (handle error) (further error))
    (lets : Lets handle) (lets_also : Lets further) :
    Shadows side states values (tryCatch left handle) (tryCatch right further) := by
  intro here there kept
  rcases first here there kept with spent | ⟨outcomes, later⟩
  · exact .inl (side.picks_imp (Exhausted.tryCatch · lets) (Exhausted.tryCatch · lets_also) spent)
  · rw [outcome_tryCatch, outcome_tryCatch, after_tryCatch, after_tryCatch]
    rcases outcomes.of_eq with ⟨value, other, given, also, related⟩ | ⟨error, failed, also⟩
    · rw [given, also]
      exact .inr ⟨.ok related, later⟩
    · rw [failed, also]
      exact second error _ _ later

protected theorem weaken {values wider : α → β → Prop} {left : Action α} {right : Action β}
    (shadows : Shadows side states values left right)
    (wide : ∀ value other, values value other → wider value other) :
    Shadows side states wider left right := by
  intro first second kept
  rcases shadows first second kept with spent | ⟨outcomes, later⟩
  · exact .inl spent
  · exact .inr ⟨outcomes.weaken wide, later⟩

/-- A step of the second action only, which comes to a known result. -/
theorem skip {values : α → γ → Prop} {left : Action α} {step : Action β} {value : β}
    {next : β → Action γ}
    (known : ∀ first second, states first second →
      step.outcome second = .ok value ∧ states first (step.after second))
    (rest : Shadows side states values left (next value)) :
    Shadows side states values left (step >>= next) := by
  intro first second kept
  obtain ⟨given, later⟩ := known first second kept
  rw [outcome_bind_of_ok given, after_bind_of_ok given]
  exact rest first _ later

end Action.Shadows

end RecordSchema
