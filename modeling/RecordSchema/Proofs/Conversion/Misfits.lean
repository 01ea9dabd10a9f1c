import RecordSchema.Proofs.Conversion.Problems
import RecordSchema.Provider.Delegation

namespace RecordSchema

/-! Which failures a conversion reports, and in which order.  A tree and a value are walked
side by side; the failures are the misfits at which such walks end, in the order in which
the value is iterated. -/

def Value.TextKeyedHere : Value → Prop
  | .map _ entries => ∀ entry ∈ entries, ∃ name, entry.1 = .text name
  | _ => True

/-- Every key of every mapping in the value is a text. -/
def Value.TextKeyed : Value → Prop :=
  Every TextKeyedHere

namespace Descriptor

/-- A walk along a tree and a value side by side, from the one pair to the other. -/
inductive Leads : Descriptor → Value → Location → Descriptor → Value → Prop where
  | here (node : Descriptor) (value : Value) : Leads node value [] node value
  | entry {fields : List Field} {nullable : Bool} {kind : MapKind} {entries : Entries}
      {field : Field} {item part : Value} {path : Location} {inner : Descriptor}
      (declared : field ∈ fields) (present : (.text field.wireKey, item) ∈ entries)
      (further : Leads field.descriptor item path inner part) :
      Leads (.mapping fields nullable) (.map kind entries) (.text field.wireKey :: path) inner part
  | item {element : Descriptor} {options : ArrayOptions} {value item part : Value}
      {items : List Value} {position : Nat} {path : Location} {inner : Descriptor}
      (sequence : value.items? = some items) (found : items[position]? = some item)
      (further : Leads element item path inner part) :
      Leads (.array element options) value (.int position :: path) inner part

/-- What is wrong with a value where it meets a node, regardless of its parts. -/
inductive Misfit : Descriptor → Value → Failure → Prop where
  | object {fields : List Field} {nullable : Bool} {value : Value}
      (other : value.entries? = none) (refused : ¬ (value = .null ∧ nullable = true)) :
      Misfit (.mapping fields nullable) value (.shapeMismatch [] "object" value)
  | array {element : Descriptor} {options : ArrayOptions} {value : Value}
      (other : value.items? = none) (refused : ¬ (value = .null ∧ options.nullable = true)) :
      Misfit (.array element options) value (.shapeMismatch [] "array" value)
  | unknown {fields : List Field} {nullable : Bool} {kind : MapKind} {entries : Entries}
      {key item : Value} (present : (key, item) ∈ entries)
      (undeclared : ∀ field ∈ fields, key ≠ .text field.wireKey) :
      Misfit (.mapping fields nullable) (.map kind entries) (.unknownField [key] key.display)

/-- A failure at which some walk ends. -/
def Problem (node : Descriptor) (value : Value) (failure : Failure) : Prop :=
  ∃ path inner part own, node.Leads value path inner part ∧ inner.Misfit part own ∧
    failure = own.rebase path

end Descriptor

/-- The order of the places of a value in depth-first iteration.  At the first step in which
two places differ, the one goes along an earlier key or position. -/
inductive Value.Precedes : Value → Location → Location → Prop where
  | key {kind : MapKind} {entries : Entries} {first second : Value} {path other : Location}
      (order : [first, second].Sublist (entries.map Prod.fst)) :
      Precedes (.map kind entries) (first :: path) (second :: other)
  | entry {kind : MapKind} {entries : Entries} {key item : Value} {path other : Location}
      (present : (key, item) ∈ entries) (further : item.Precedes path other) :
      Precedes (.map kind entries) (key :: path) (key :: other)
  | position {value : Value} {items : List Value} {first second : Nat} {path other : Location}
      (sequence : value.items? = some items) (order : first < second) :
      Precedes value (.int first :: path) (.int second :: other)
  | item {value item : Value} {items : List Value} {position : Nat} {path other : Location}
      (sequence : value.items? = some items) (found : items[position]? = some item)
      (further : item.Precedes path other) :
      Precedes value (.int position :: path) (.int position :: other)

/-! ### The failures are the misfits -/

theorem Failure.rebase_cons (failure : Failure) (step : Value) (inner : Location) :
    failure.rebase (step :: inner) = (failure.rebase inner).rebase [step] :=
  failure.rebase_append [step] inner

theorem mem_located {outer : Location} {failures : List Failure} {failure : Failure} :
    failure ∈ located outer failures ↔ ∃ own ∈ failures, failure = own.rebase outer := by
  simp [located, eq_comm]

theorem mem_shapeProblems {nullable : Bool} {expected : String} {value : Value}
    {failure : Failure} :
    failure ∈ shapeProblems nullable expected value ↔
      ¬ (value = .null ∧ nullable = true) ∧ failure = .shapeMismatch [] expected value := by
  cases value <;> cases nullable <;> simp [shapeProblems]

theorem mem_entryProblems {fields : List Field} (keys : (fields.map Field.wireKey).Nodup)
    {entry : Value × Value} {failure : Failure} :
    failure ∈ entryProblems fields entry ↔
      ((∀ field ∈ fields, entry.1 ≠ .text field.wireKey) ∧
          failure = .unknownField [entry.1] entry.1.display) ∨
        ∃ field ∈ fields, entry.1 = .text field.wireKey ∧
          ∃ own ∈ field.descriptor.problems entry.2, failure = own.rebase [entry.1] := by
  rw [entryProblems_eq]
  cases belongs : Field.ofKey? fields entry.1 with
  | none =>
      have undeclared : ∀ field ∈ fields, entry.1 ≠ .text field.wireKey := by
        simpa [Field.ofKey?] using belongs
      simp only [List.mem_singleton]
      constructor
      · intro same
        exact .inl ⟨undeclared, same⟩
      · rintro (⟨_, same⟩ | ⟨field, declared, key, _⟩)
        · exact same
        · exact absurd key (undeclared field declared)
  | some field =>
      obtain ⟨declared, key⟩ := Field.ofKey?_eq_some belongs
      rw [mem_located]
      constructor
      · intro inside
        exact .inr ⟨field, declared, key, inside⟩
      · rintro (⟨undeclared, _⟩ | ⟨other, also, otherKey, inside⟩)
        · exact absurd key (undeclared field declared)
        · have one : other = field := by
            have same := Value.text.inj (otherKey.symm.trans key)
            exact List.inj_on_of_nodup_map keys also declared same
          rw [← one]
          exact inside

namespace Descriptor

variable {value : Value} {failure : Failure}

theorem not_problem_primitive {options : Primitive} :
    ¬ (Descriptor.primitive options).Problem value failure := by
  rintro ⟨path, inner, part, own, leads, misfit, _⟩
  cases leads
  exact nomatch misfit

theorem problem_mapping {fields : List Field} {nullable : Bool} :
    (Descriptor.mapping fields nullable).Problem value failure ↔
      match value.entries? with
      | none =>
          ¬ (value = .null ∧ nullable = true) ∧ failure = .shapeMismatch [] "object" value
      | some entries =>
          ∃ entry ∈ entries,
            ((∀ field ∈ fields, entry.1 ≠ .text field.wireKey) ∧
                failure = .unknownField [entry.1] entry.1.display) ∨
              ∃ field ∈ fields, entry.1 = .text field.wireKey ∧
                ∃ own, field.descriptor.Problem entry.2 own ∧ failure = own.rebase [entry.1] := by
  constructor
  · rintro ⟨path, inner, part, own, leads, misfit, rfl⟩
    cases leads with
    | here =>
        cases misfit with
        | object other refused =>
            rw [other]
            exact ⟨refused, rfl⟩
        | unknown present undeclared => exact ⟨_, present, .inl ⟨undeclared, rfl⟩⟩
    | entry declared present further =>
        refine ⟨_, present, .inr ⟨_, declared, rfl, own.rebase _, ?_, own.rebase_cons _ _⟩⟩
        exact ⟨_, inner, part, own, further, misfit, rfl⟩
  · intro described
    cases parts : value.entries? with
    | none =>
        rw [parts] at described
        obtain ⟨refused, rfl⟩ := described
        exact ⟨[], _, value, _, .here _ value, .object parts refused, rfl⟩
    | some entries =>
        rw [parts] at described
        obtain ⟨kind, rfl⟩ := Value.entries?_eq_some.mp parts
        obtain ⟨⟨key, item⟩, present, ⟨undeclared, rfl⟩ |
          ⟨field, declared, same, own, inside, rfl⟩⟩ := described
        · exact ⟨[], _, _, _, .here _ _, .unknown present undeclared, rfl⟩
        · obtain ⟨path, inner, part, first, leads, misfit, rfl⟩ := inside
          dsimp only at same
          subst same
          exact ⟨_, inner, part, first, .entry declared present leads, misfit,
            (first.rebase_cons _ _).symm⟩

theorem problem_array {element : Descriptor} {options : ArrayOptions} :
    (Descriptor.array element options).Problem value failure ↔
      match value.items? with
      | none =>
          ¬ (value = .null ∧ options.nullable = true) ∧ failure = .shapeMismatch [] "array" value
      | some items =>
          ∃ (position : Nat) (item : Value), items[position]? = some item ∧
            ∃ own, element.Problem item own ∧ failure = own.rebase [.int position] := by
  constructor
  · rintro ⟨path, inner, part, own, leads, misfit, rfl⟩
    cases leads with
    | here =>
        cases misfit with
        | array other refused =>
            rw [other]
            exact ⟨refused, rfl⟩
    | item sequence found further =>
        rw [sequence]
        refine ⟨_, _, found, own.rebase _, ?_, own.rebase_cons _ _⟩
        exact ⟨_, inner, part, own, further, misfit, rfl⟩
  · intro described
    cases parts : value.items? with
    | none =>
        rw [parts] at described
        obtain ⟨refused, rfl⟩ := described
        exact ⟨[], _, value, _, .here _ value, .array parts refused, rfl⟩
    | some items =>
        rw [parts] at described
        obtain ⟨position, item, found, _, ⟨path, inner, part, own, leads, misfit, rfl⟩, rfl⟩ :=
          described
        exact ⟨_, inner, part, own, .item parts found leads, misfit,
          (own.rebase_cons _ _).symm⟩

theorem mem_problems {node : Descriptor} (free : node.ProviderFree) (checked : node.Checked) :
    failure ∈ node.problems value ↔ node.Problem value failure := by
  refine checked_induction (motive := fun node => ∀ value failure,
    failure ∈ node.problems value ↔ node.Problem value failure)
    ?primitive ?mapping ?array node free checked value failure
  case primitive =>
      intro options value failure
      simp only [problems, List.not_mem_nil, not_problem_primitive]
  case mapping =>
      intro fields nullable _ keys inside value failure
      rw [problem_mapping, problems]
      cases value.entries? with
      | none => exact mem_shapeProblems
      | some entries =>
          simp only [List.mem_flatMap, mem_entryProblems keys]
          refine exists_congr (fun entry => and_congr_right (fun _ => or_congr_right ?_))
          refine exists_congr (fun field => and_congr_right (fun declared => ?_))
          simp only [inside field declared]
  case array =>
      intro element options inside value failure
      rw [problem_array, problems]
      cases value.items? with
      | none => exact mem_shapeProblems
      | some items =>
          simp only [List.mem_flatMap, Prod.exists, List.mem_zipIdx_iff_getElem?, mem_located,
            inside]
          exact exists_comm

end Descriptor

/-! ### The order of the failures -/

theorem shapeProblems_ordered {nullable : Bool} {expected : String} {value : Value}
    {before : Failure → Failure → Prop} :
    (shapeProblems nullable expected value).Pairwise before := by
  cases value <;> cases nullable <;> simp [shapeProblems]

theorem path_of_mem_located {step : Value} {failures : List Failure} {failure : Failure}
    (member : failure ∈ located [step] failures) :
    ∃ own ∈ failures, failure.path = step :: own.path := by
  obtain ⟨own, inside, rfl⟩ := mem_located.mp member
  exact ⟨own, inside, rfl⟩

theorem path_of_mem_entryProblems {fields : List Field} {entry : Value × Value}
    {failure : Failure} (member : failure ∈ entryProblems fields entry) :
    ∃ inner, failure.path = entry.1 :: inner := by
  rw [entryProblems_eq] at member
  cases belongs : Field.ofKey? fields entry.1 with
  | none =>
      rw [belongs, List.mem_singleton] at member
      rw [member]
      exact ⟨[], rfl⟩
  | some field =>
      rw [belongs] at member
      obtain ⟨own, _, path⟩ := path_of_mem_located member
      exact ⟨own.path, path⟩

theorem pairwise_snd_zipIdx (items : List α) (position : Nat) :
    (items.zipIdx position).Pairwise (fun a b => a.2 < b.2) := by
  induction items generalizing position with
  | nil => exact .nil
  | cons item rest induction =>
      exact List.pairwise_cons.mpr
        ⟨fun _ member => List.le_snd_of_mem_zipIdx member, induction (position + 1)⟩

namespace Descriptor

theorem problems_ordered {node : Descriptor} (free : node.ProviderFree)
    (checked : node.Checked) (value : Value) :
    (node.problems value).Pairwise (fun a b => value.Precedes a.path b.path) := by
  refine checked_induction (motive := fun node => ∀ value : Value,
    (node.problems value).Pairwise (fun a b => value.Precedes a.path b.path))
    ?primitive ?mapping ?array node free checked value
  case primitive =>
      intro options value
      exact .nil
  case mapping =>
      intro fields nullable _ _ inside value
      cases parts : value.entries? with
      | none =>
          simp only [problems, parts]
          exact shapeProblems_ordered
      | some entries =>
          simp only [problems, parts]
          obtain ⟨kind, rfl⟩ := Value.entries?_eq_some.mp parts
          refine List.pairwise_flatMap.mpr ⟨fun entry present => ?_, ?_⟩
          · rw [entryProblems_eq]
            cases belongs : Field.ofKey? fields entry.1 with
            | none => exact List.pairwise_singleton _ _
            | some field =>
                have own := inside field (Field.ofKey?_eq_some belongs).1 entry.2
                exact List.pairwise_map.mpr (own.imp (fun further => .entry present further))
          · refine List.pairwise_iff_forall_sublist.mpr
              (fun order first own second other => ?_)
            obtain ⟨path, firstPath⟩ := path_of_mem_entryProblems own
            obtain ⟨further, secondPath⟩ := path_of_mem_entryProblems other
            rw [firstPath, secondPath]
            exact .key (order.map Prod.fst)
  case array =>
      intro element options inside value
      cases parts : value.items? with
      | none =>
          simp only [problems, parts]
          exact shapeProblems_ordered
      | some items =>
          simp only [problems, parts]
          refine List.pairwise_flatMap.mpr ⟨fun item member => ?_, ?_⟩
          · rw [List.mem_zipIdx_iff_getElem?] at member
            exact List.pairwise_map.mpr
              ((inside item.1).imp (fun further => .item parts member further))
          · refine (pairwise_snd_zipIdx items 0).imp (fun order first own second other => ?_)
            obtain ⟨_, _, firstPath⟩ := path_of_mem_located own
            obtain ⟨_, _, secondPath⟩ := path_of_mem_located other
            rw [firstPath, secondPath]
            exact .position parts order

end Descriptor

/-- No place precedes itself where keys are distinct texts. -/
theorem Value.Precedes.ne {value : Value} {path other : Location}
    (precedes : value.Precedes path other) (distinct : value.KeysDistinct)
    (texts : value.TextKeyed) : path ≠ other := by
  induction precedes with
  | @key kind entries first second _ _ order =>
      intro same
      obtain rfl : first = second := (List.cons.inj same).1
      have apart : (entries.map Prod.fst).Pairwise (fun a b => a.eqv b = false) :=
        List.pairwise_map.mpr distinct.1
      have unequal := List.rel_of_pairwise_cons (apart.sublist order) (List.mem_singleton_self _)
      obtain ⟨entry, present, rfl⟩ := List.mem_map.mp (order.subset List.mem_cons_self)
      obtain ⟨name, text⟩ := texts.1 entry present
      rw [text, Bool.eq_false_iff] at unequal
      exact unequal ((eqv_text_right _ name).mpr rfl)
  | entry present _ induction =>
      intro same
      exact induction (entriesEvery_iff.mp distinct.2 _ present)
        (entriesEvery_iff.mp texts.2 _ present) (List.cons.inj same).2
  | position _ order =>
      intro same
      have equal := (List.cons.inj same).1
      simp only [int, Value.number.injEq, Number.int.injEq] at equal
      omega
  | item sequence found _ induction =>
      intro same
      have member := List.mem_of_getElem? found
      exact induction (Value.Every.items distinct sequence _ member)
        (Value.Every.items texts sequence _ member) (List.cons.inj same).2

namespace Descriptor

variable {node : Descriptor} {value : Value}

theorem problems_at_distinct_places (free : node.ProviderFree) (checked : node.Checked)
    (distinct : value.KeysDistinct) (texts : value.TextKeyed) :
    ((node.problems value).map Failure.path).Nodup :=
  List.pairwise_map.mpr ((problems_ordered free checked value).imp
    (fun precedes => precedes.ne distinct texts))

/-- A conversion without references succeeds iff no walk ends in a misfit, and fails with
the misfits otherwise: each of them at a place of its own, in the order of the places. -/
theorem convert_reports_misfits (catalogue : Catalogue) (free : node.ProviderFree)
    (checked : node.Checked) (distinct : value.KeysDistinct) (texts : value.TextKeyed)
    (session : Session) :
    match (node.convert catalogue value).outcome session with
    | .ok _ => ∀ failure, ¬ node.Problem value failure
    | .error (.conversion failures reason) =>
        failures ≠ [] ∧ reason = .null ∧
          (∀ failure, failure ∈ failures ↔ node.Problem value failure) ∧
          (failures.map Failure.path).Nodup ∧
          failures.Pairwise (fun a b => value.Precedes a.path b.path)
    | .error _ => False := by
  have exactly : ∀ failure, failure ∈ node.problems value ↔ node.Problem value failure :=
    fun _ => mem_problems free checked
  have apart := problems_at_distinct_places free checked distinct texts
  have ordered := problems_ordered free checked value
  rw [outcome_convert catalogue free checked distinct]
  cases problems : node.problems value with
  | nil =>
      intro failure problem
      rw [← exactly failure, problems] at problem
      exact nomatch problem
  | cons first rest =>
      rw [problems] at exactly apart ordered
      exact ⟨nofun, rfl, exactly, apart, ordered⟩

theorem convert_reports_misfits_of_nested :
    let catalogue : Catalogue := fun _ => .delegating
    let node : Descriptor := .mapping
      [⟨"rows", .array (.mapping [⟨"x", .primitive .null, true, none⟩] false) {}, false, none⟩] true
    let value : Value := .map .plain
      [(.text "z", .null),
        (.text "rows", .tuple [.map .plain [(.text "y", .int 0), (.text "x", .null)], .null])]
    let failures : List Failure :=
      [.unknownField [.text "z"] "z", .unknownField [.text "rows", .int 0, .text "y"] "y",
        .shapeMismatch [.text "rows", .int 1] "object" .null]
    node.ProviderFree ∧ node.Checked ∧ value.KeysDistinct ∧ value.TextKeyed ∧
      (node.convert catalogue value).outcome {} = .error (.conversion failures .null) ∧
      (∀ failure, failure ∈ failures ↔ node.Problem value failure) ∧
      (failures.map Failure.path).Nodup ∧
      failures.Pairwise (fun a b => value.Precedes a.path b.path) := by
  intro catalogue node value failures
  have free : node.ProviderFree := ⟨⟨trivial, trivial⟩, trivial⟩
  have checked : node.Checked :=
    ⟨by decide, by decide, ⟨by decide, by decide, trivial, trivial⟩, trivial⟩
  have distinct : value.KeysDistinct :=
    ⟨List.pairwise_pair.mpr rfl, trivial,
      ⟨trivial, ⟨List.pairwise_pair.mpr rfl, trivial, trivial, trivial⟩, trivial, trivial⟩, trivial⟩
  have texts : value.TextKeyed :=
    ⟨by simp [Value.TextKeyedHere], trivial, ⟨trivial,
      ⟨by simp [Value.TextKeyedHere], trivial, trivial, trivial⟩, trivial, trivial⟩, trivial⟩
  have failed : (node.convert catalogue value).outcome {} =
      .error (.conversion failures .null) := rfl
  have reports := convert_reports_misfits catalogue free checked distinct texts {}
  rw [failed] at reports
  exact ⟨free, checked, distinct, texts, failed, reports.2.2⟩

end Descriptor

end RecordSchema
