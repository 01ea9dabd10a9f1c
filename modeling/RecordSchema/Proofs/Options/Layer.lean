import RecordSchema.Proofs.Descriptor.Reporting
import RecordSchema.Proofs.Options.Explicit

namespace RecordSchema

/-! Layers of options, one over another.  Some options belong to the field that a description
stands at; the node has the others. -/

/-- Options as a layer gives them: every name once, and none that is reserved. -/
structure Layer where
  options : Arguments
  distinct : options.Distinct
  nameable : Arguments.reservedName ∉ options.map Prod.fst
  untyped : Shorthand.typeKey ∉ options.map Prod.fst

namespace Layer

def entries (layer : Layer) : Entries :=
  Entries.ofNames layer.options

def empty : Layer :=
  ⟨[], List.nodup_nil, List.not_mem_nil, List.not_mem_nil⟩

/-- The options of both layers; those of the upper one win. -/
def under (lower upper : Layer) : Layer where
  options := Arguments.merge lower.options upper.options
  distinct := lower.distinct.merge upper.options
  nameable := by
    rw [Arguments.mem_names_merge, not_or]
    exact ⟨upper.nameable, lower.nameable⟩
  untyped := by
    rw [Arguments.mem_names_merge, not_or]
    exact ⟨upper.untyped, lower.untyped⟩

def restrict (keep : String → Bool) (layer : Layer) : Layer where
  options := layer.options.restrict keep
  distinct := layer.distinct.restrict keep
  nameable among := layer.nameable ((List.filter_sublist.map Prod.fst).subset among)
  untyped among := layer.untyped ((List.filter_sublist.map Prod.fst).subset among)

/-- The options that do not belong to the field. -/
def ofNode (layer : Layer) : Layer :=
  (layer.restrict (fun name => "optional" ≠ name)).restrict (fun name => "key" ≠ name)

def Plain (layer : Layer) : Prop :=
  layer.entries.Hold Value.Plain

@[ext] theorem ext {first second : Layer} (same : first.options = second.options) :
    first = second := by
  cases first
  cases second
  cases same
  rfl

theorem empty_under (layer : Layer) : empty.under layer = layer :=
  Layer.ext (Arguments.nil_merge layer.distinct)

theorem under_assoc (lower middle upper : Layer) :
    lower.under (middle.under upper) = (lower.under middle).under upper :=
  Layer.ext (Arguments.merge_assoc middle.distinct lower.options upper.options)

theorem merge_entries (lower upper : Layer) :
    Entries.merge lower.entries upper.entries = (lower.under upper).entries :=
  Entries.merge_ofNames lower.options upper.options

theorem ofNode_under (lower upper : Layer) :
    (lower.under upper).ofNode = lower.ofNode.under upper.ofNode := by
  apply Layer.ext
  simp only [ofNode, restrict, under, Arguments.restrict_merge]

theorem nodeOptions_entries (layer : Layer) :
    Shorthand.nodeOptions layer.entries = layer.ofNode.entries := by
  rw [Shorthand.nodeOptions, entries, Entries.erase_ofNames, Entries.erase_ofNames]
  rfl

theorem get?_under (lower upper : Layer) (name : String) :
    Entries.get? (lower.under upper).entries name =
      (Entries.get? upper.entries name).or (Entries.get? lower.entries name) := by
  unfold entries
  rw [Entries.get?_ofNames, Entries.get?_ofNames, Entries.get?_ofNames]
  exact Arguments.get?_merge upper.distinct lower.options name

theorem ofEntries_entries (layer : Layer) :
    Arguments.ofEntries layer.entries = pure layer.options := by
  unfold Arguments.ofEntries entries
  rw [Arguments.ofEntries?_ofNames layer.nameable]

theorem Plain.under {lower upper : Layer} (plain : lower.Plain) (given : upper.Plain) :
    (lower.under upper).Plain := by
  rw [Plain, ← merge_entries]
  exact Entries.Hold.merge plain given

theorem Plain.ofNode {layer : Layer} (plain : layer.Plain) : layer.ofNode.Plain := by
  rw [Plain, ← nodeOptions_entries]
  exact (Entries.Hold.erase plain _).erase _

theorem isEmpty_entries {layer : Layer} : layer.entries.isEmpty = true ↔ layer = empty := by
  obtain ⟨options, _, _, _⟩ := layer
  cases options with
  | nil => exact iff_of_true rfl rfl
  | cons argument rest =>
      refine iff_of_false Bool.false_ne_true (fun same => ?_)
      exact absurd (congrArg Layer.options same) (List.cons_ne_nil _ _)

theorem isEmpty_under {lower : Layer} (filled : ¬ lower.entries.isEmpty = true) (upper : Layer) :
    ¬ (lower.under upper).entries.isEmpty = true := by
  intro none
  have names := congrArg (List.map Prod.fst) (congrArg Layer.options (isEmpty_entries.mp none))
  apply filled
  rw [isEmpty_entries]
  apply Layer.ext
  cases options : lower.options with
  | nil => rfl
  | cons argument rest =>
      have among : argument.1 ∈ (lower.under upper).options.map Prod.fst := by
        refine Arguments.mem_names_merge.mpr (.inr ?_)
        rw [options]
        exact List.mem_cons_self
      rw [names] at among
      exact absurd among List.not_mem_nil

end Layer

/-! ### The options that belong to the field -/

namespace Shorthand

variable {options other : Entries}

theorem optionalOf_congr (same : options.get? "optional" = other.get? "optional") :
    optionalOf options = optionalOf other := by
  unfold optionalOf
  rw [same]

theorem keyOf_congr (same : options.get? "key" = other.get? "key") :
    keyOf options = keyOf other := by
  unfold keyOf
  rw [same]

theorem optionalOf_cases (options : Entries) :
    (∃ optional, optionalOf options = pure optional) ∨
      ∃ error, optionalOf options = throw error := by
  unfold optionalOf
  split
  · exact .inl ⟨_, rfl⟩
  · exact .inl ⟨_, rfl⟩
  · exact .inr ⟨_, rfl⟩

theorem keyOf_cases (options : Entries) :
    (∃ key, keyOf options = pure key) ∨ ∃ error, keyOf options = throw error := by
  unfold keyOf
  split
  · exact .inl ⟨_, rfl⟩
  · exact .inl ⟨_, rfl⟩
  · exact .inl ⟨_, rfl⟩
  · exact .inr ⟨_, rfl⟩

/-- Both actions complain alike, or both give something at once. -/
def ComplainAlike (first : Action α) (second : Action β) : Prop :=
  (∃ error, first = throw error ∧ second = throw error) ∨
    ∃ value other, first = pure value ∧ second = pure other

theorem ComplainAlike.bind {first : Action α} {second : Action β} {next : α → Action γ}
    {after : β → Action δ} (alike : ComplainAlike first second)
    (goes : ∀ value other, ComplainAlike (next value) (after other)) :
    ComplainAlike (first >>= next) (second >>= after) := by
  obtain ⟨error, rfl, rfl⟩ | ⟨value, other, rfl, rfl⟩ := alike
  · exact .inl ⟨error, rfl, rfl⟩
  · exact goes value other

/-- An option that is read from the upper layer or else from the lower one, where it is fine. -/
theorem ComplainAlike.of_layers {read : Entries → Action α} {name : String} {missing : α}
    (congr : ∀ {options other : Entries}, options.get? name = other.get? name →
      read options = read other)
    (cases : ∀ options, (∃ value, read options = pure value) ∨
      ∃ error, read options = throw error)
    (absent : ∀ options : Entries, options.get? name = none → read options = pure missing)
    {lower : Layer} {value : α} (fine : read lower.entries = pure value) (upper : Layer) :
    ComplainAlike (read upper.entries) (read (lower.under upper).entries) := by
  have merged := Layer.get?_under lower upper name
  cases found : Entries.get? upper.entries name with
  | none =>
      rw [found, Option.none_or] at merged
      exact .inr ⟨missing, value, absent _ found, (congr merged).trans fine⟩
  | some given =>
      rw [found, Option.some_or, ← found] at merged
      rw [congr merged]
      obtain ⟨value, given⟩ | ⟨error, failed⟩ := cases upper.entries
      · exact .inr ⟨value, value, given, given⟩
      · exact .inl ⟨error, failed, failed⟩

theorem throw_ne_pure (error : Error) (value : α) : (throw error : Action α) ≠ pure value :=
  fun same => nomatch congrArg (fun action => Action.outcome action {}) same

/-- Where the lower layer is fine, the layers together are refused iff the upper one is. -/
theorem fieldOptions_under {lower : Layer} {own : FieldOptions}
    (fine : fieldOptions lower.entries = pure own) (upper : Layer) :
    ComplainAlike (fieldOptions upper.entries) (fieldOptions (lower.under upper).entries) := by
  unfold fieldOptions at fine
  obtain ⟨optional, given⟩ | ⟨error, failed⟩ := optionalOf_cases lower.entries
  · obtain ⟨key, given'⟩ | ⟨error, failed⟩ := keyOf_cases lower.entries
    · have first : ComplainAlike (optionalOf upper.entries) _ :=
        .of_layers optionalOf_congr optionalOf_cases
          (fun options none => by rw [optionalOf, none]) given upper
      have second : ComplainAlike (keyOf upper.entries) _ :=
        .of_layers keyOf_congr keyOf_cases (fun options none => by rw [keyOf, none]) given' upper
      exact first.bind (fun _ _ => second.bind (fun _ _ => .inr ⟨_, _, rfl, rfl⟩))
    · rw [given, failed] at fine
      exact absurd fine (throw_ne_pure error own)
  · rw [failed] at fine
    exact absurd fine (throw_ne_pure error own)

/-! ### The node of a core -/

/-- The node of a core with the options that are left to it. -/
def described (registry : Registry) : Value → Entries → Action Descriptor
  | .map kind entries, given => do
      listed kind entries
      let fields ← parseFields registry entries
      Descriptor.buildMapping fields (← Arguments.ofEntries given)
  | .list items, given => parseElement registry items given
  | .descriptor node, given => attached node given
  | .text name, given => named registry name given
  | .null, _ => Action.failShowing .null (.notDescription .null)
  | .bool value, _ => Action.failShowing (.bool value) (.notDescription (.bool value))
  | .number value, _ => Action.failShowing (.number value) (.notDescription (.number value))
  | .bytes false data, _ =>
      Action.failShowing (.bytes false data) (.notDescription (.bytes false data))
  | candidate, given => Descriptor.buildRef candidate given

theorem parse_of_core (registry : Registry) {core : Value} (bare : isLayer core = false)
    (options : Entries) :
    parse registry core options = do
      let own ← fieldOptions options
      let node ← described registry core own.rest
      return ⟨node, own.optional, own.key⟩ := by
  cases core with
  | tuple items => exact nomatch bare
  | map kind entries =>
      have plain : ¬ Entries.contains entries typeKey = true := by simpa [isLayer] using bare
      rw [parse, if_neg plain]
      simp only [described, bind_assoc]
  | bytes mutable data => cases mutable <;> rfl
  | _ => rfl

end Shorthand

end RecordSchema
