import RecordSchema.Proofs.Session.Outcome

namespace RecordSchema

/-! Two programs that run alike: from related states to related states, with related
values or related errors. -/

/-- Values on both sides, or errors on both sides. -/
inductive Outcomes (errors : ε → ε → Prop) (values : α → β → Prop) :
    Except ε α → Except ε β → Prop where
  | ok {value : α} {other : β} (related : values value other) :
      Outcomes errors values (.ok value) (.ok other)
  | error {error other : ε} (related : errors error other) :
      Outcomes errors values (.error error) (.error other)

def Agree (states : σ → σ → Prop) (errors : ε → ε → Prop) (values : α → β → Prop)
    (left : ExceptT ε (StateM σ) α) (right : ExceptT ε (StateM σ) β) : Prop :=
  ∀ first second, states first second →
    Outcomes errors values (left.run.run first).1 (right.run.run second).1 ∧
      states (left.run.run first).2 (right.run.run second).2

namespace Agree

variable {states : σ → σ → Prop} {errors : ε → ε → Prop}

protected theorem pure {values : α → β → Prop} {value : α} {other : β}
    (related : values value other) :
    Agree states errors values (pure value) (pure other) :=
  fun _ _ like => ⟨.ok related, like⟩

protected theorem throw {values : α → β → Prop} {error other : ε}
    (related : errors error other) :
    Agree states errors values (throw error) (throw other) :=
  fun _ _ like => ⟨.error related, like⟩

protected theorem bind {values : α → β → Prop} {results : γ → δ → Prop}
    {left : ExceptT ε (StateM σ) α} {right : ExceptT ε (StateM σ) β}
    {next : α → ExceptT ε (StateM σ) γ} {after : β → ExceptT ε (StateM σ) δ}
    (first : Agree states errors values left right)
    (second : ∀ value other, values value other →
      Agree states errors results (next value) (after other)) :
    Agree states errors results (left >>= next) (right >>= after) := by
  intro here there like
  have agreed := first here there like
  change Outcomes errors results
      (ExceptT.bindCont next (left.run.run here).1 (left.run.run here).2).1
      (ExceptT.bindCont after (right.run.run there).1 (right.run.run there).2).1 ∧
    states (ExceptT.bindCont next (left.run.run here).1 (left.run.run here).2).2
      (ExceptT.bindCont after (right.run.run there).1 (right.run.run there).2).2
  generalize left.run.run here = leftRun at agreed ⊢
  generalize right.run.run there = rightRun at agreed ⊢
  obtain ⟨leftResult, leftState⟩ := leftRun
  obtain ⟨rightResult, rightState⟩ := rightRun
  obtain ⟨outcomes, later⟩ := agreed
  cases outcomes with
  | ok related => exact second _ _ related _ _ later
  | error related => exact ⟨.error related, later⟩

protected theorem get : Agree states errors states get get :=
  fun _ _ like => ⟨.ok like, like⟩

end Agree

/-- What is related to one thing is related to each other. -/
def Joins (related : α → α → Prop) : Prop :=
  ∀ first second third, related first third → related second third → related first second

theorem Outcomes.weaken {errors : ε → ε → Prop} {values wider : α → β → Prop}
    {left : Except ε α} {right : Except ε β} (outcomes : Outcomes errors values left right)
    (wide : ∀ value other, values value other → wider value other) :
    Outcomes errors wider left right := by
  cases outcomes with
  | ok related => exact .ok (wide _ _ related)
  | error related => exact .error related

theorem Outcomes.weaken_error {errors wider : ε → ε → Prop} {values : α → β → Prop}
    {left : Except ε α} {right : Except ε β} (outcomes : Outcomes errors values left right)
    (wide : ∀ error other, errors error other → wider error other) :
    Outcomes wider values left right := by
  cases outcomes with
  | ok related => exact .ok related
  | error related => exact .error (wide _ _ related)

theorem Outcomes.exists_ok {errors : ε → ε → Prop} {values : α → β → Prop} {value : α}
    {right : Except ε β} (outcomes : Outcomes errors values (.ok value) right) :
    ∃ other, right = .ok other ∧ values value other := by
  cases outcomes with
  | ok related => exact ⟨_, rfl, related⟩

theorem Outcomes.of_eq {values : α → β → Prop} {left : Except ε α} {right : Except ε β}
    (outcomes : Outcomes Eq values left right) :
    (∃ value other, left = .ok value ∧ right = .ok other ∧ values value other) ∨
      ∃ error, left = .error error ∧ right = .error error := by
  cases outcomes with
  | ok related => exact .inl ⟨_, _, rfl, rfl, related⟩
  | error same => exact .inr ⟨_, rfl, congrArg _ same.symm⟩

theorem Outcomes.join {errors : ε → ε → Prop} {values : α → α → Prop}
    (errors_join : Joins errors) (values_join : Joins values) {first second third : Except ε α}
    (left : Outcomes errors values first third) (right : Outcomes errors values second third) :
    Outcomes errors values first second := by
  cases left with
  | ok related =>
      cases right with
      | ok other => exact .ok (values_join _ _ _ related other)
  | error related =>
      cases right with
      | error other => exact .error (errors_join _ _ _ related other)

namespace Agree

variable {states : σ → σ → Prop} {errors : ε → ε → Prop}

protected theorem weaken {values wider : α → β → Prop} {left : ExceptT ε (StateM σ) α}
    {right : ExceptT ε (StateM σ) β} (agree : Agree states errors values left right)
    (wide : ∀ value other, values value other → wider value other) :
    Agree states errors wider left right := by
  intro first second like
  obtain ⟨outcomes, later⟩ := agree first second like
  exact ⟨outcomes.weaken wide, later⟩

/-- Where a program agrees with the one for the shaded argument, programs for arguments of
one shade agree. -/
theorem of_shade {shade : γ → γ} {values : α → α → Prop}
    {program : γ → ExceptT ε (StateM σ) α} (states_refl : ∀ state, states state state)
    (states_join : Joins states) (errors_join : Joins errors) (values_join : Joins values)
    (shaded : ∀ argument, Agree states errors values (program argument)
      (program (shade argument)))
    {argument other : γ} (same : shade argument = shade other) :
    Agree states errors values (program argument) (program other) := by
  intro first second like
  obtain ⟨left, leftLater⟩ := shaded argument first second like
  obtain ⟨right, rightLater⟩ := shaded other second second (states_refl second)
  rw [← same] at right rightLater
  exact ⟨left.join errors_join values_join right, states_join _ _ _ leftLater rightLater⟩

end Agree

end RecordSchema
