import RecordSchema.Proofs.Conversion.Walk
import RecordSchema.Proofs.Descriptor.Checked
import RecordSchema.Proofs.Session.Outcome

namespace RecordSchema

/-! What a conversion against a tree without references comes to: the problems of shape,
listed by recursion on the tree, or else the value with its mappings recast to records. -/

/-- The failures of a part, seen from outside. -/
def located (outer : Location) (failures : List Failure) : List Failure :=
  failures.map (fun failure => failure.rebase outer)

@[simp] theorem located_nil (outer : Location) : located outer [] = [] := rfl

@[simp] theorem located_append (outer : Location) (failures more : List Failure) :
    located outer (failures ++ more) = located outer failures ++ located outer more :=
  List.map_append

theorem located_located (outer inner : Location) (failures : List Failure) :
    located outer (located inner failures) = located (outer ++ inner) failures := by
  simp [located, Failure.rebase_append]

@[simp] theorem located_eq_nil {outer : Location} {failures : List Failure} :
    located outer failures = [] ↔ failures = [] :=
  List.map_eq_nil_iff

@[simp] theorem located_at_root (failures : List Failure) : located [] failures = failures := by
  simp [located]

theorem located_unknownField (outer inner : Location) (key : Value) (name : String) :
    located outer [.unknownField (inner ++ [key]) name] =
      [.unknownField (outer ++ inner ++ [key]) name] := by
  simp [located, Failure.unknownField, Failure.rebase]

theorem located_shapeMismatch (outer inner : Location) (expected : String) (value : Value) :
    located outer [.shapeMismatch inner expected value] =
      [.shapeMismatch (outer ++ inner) expected value] := by
  simp [located, Failure.shapeMismatch, Failure.rebase]

theorem located_providerFailures (outer inner : Location) (provider : Value)
    (failures : List Failure) (reason : Value) :
    located outer (providerFailures provider inner failures reason) =
      providerFailures provider (outer ++ inner) failures reason := by
  unfold providerFailures
  split
  · rfl
  · exact located_located outer inner failures

def shapeProblems (nullable : Bool) (expected : String) (value : Value) : List Failure :=
  match value, nullable with
  | .null, true => []
  | value, _ => [.shapeMismatch [] expected value]

mutual
/-- The problems of a value, each at its place within the value. -/
def Descriptor.problems : Descriptor → Value → List Failure
  | .primitive _, _ => []
  | .mapping fields nullable, value =>
      match value.entries? with
      | some entries => entries.flatMap (fun entry => entryProblems fields entry)
      | none => shapeProblems nullable "object" value
  | .array element options, value =>
      match value.items? with
      | some items =>
          items.zipIdx.flatMap (fun item => located [.int item.2] (element.problems item.1))
      | none => shapeProblems options.nullable "array" value
  | .ref _ _, _ => []
  | .foreign _, _ => []
termination_by structural node => node

def entryProblems : List Field → Value × Value → List Failure
  | [], entry => [.unknownField [entry.1] entry.1.display]
  | ⟨name, descriptor, _, key⟩ :: rest, entry =>
      if entry.1.eqv (.text (key.getD name)) then
        located [entry.1] (descriptor.problems entry.2)
      else entryProblems rest entry
termination_by structural fields => fields
end

mutual
/-- The value with its mappings in one form, and lists for all sequences: an entry is
found by what its field is known as, and is given another name of it. -/
def Descriptor.recast (kind : MapKind) (known given : Field → String) :
    Descriptor → Value → Value
  | .mapping fields _, value =>
      match value.entries? with
      | some entries =>
          .map kind (entries.map (fun entry => recastEntry kind known given fields entry))
      | none => value
  | .array element _, value =>
      match value.items? with
      | some items => .list (items.map (fun item => element.recast kind known given item))
      | none => value
  | .primitive _, value => value
  | .ref _ _, value => value
  | .foreign _, value => value
termination_by structural node => node

def recastEntry (kind : MapKind) (known given : Field → String) :
    List Field → Value × Value → Value × Value
  | [], entry => entry
  | ⟨name, descriptor, optional, key⟩ :: rest, entry =>
      if entry.1.eqv (.text (known ⟨name, descriptor, optional, key⟩)) then
        (.text (given ⟨name, descriptor, optional, key⟩),
          descriptor.recast kind known given entry.2)
      else recastEntry kind known given rest entry
termination_by structural fields => fields
end

/-- The record that a conversion makes: entries are found by their keys, and named. -/
abbrev Descriptor.toRecord (node : Descriptor) (value : Value) : Value :=
  node.recast .record Field.wireKey Field.name value

theorem Descriptor.recast_mapping {kind : MapKind} {known given : Field → String}
    {fields : List Field} {nullable : Bool} {value : Value} {entries : Entries}
    (parts : value.entries? = some entries) :
    (Descriptor.mapping fields nullable).recast kind known given value =
      .map kind (entries.map (recastEntry kind known given fields)) := by
  rw [recast, parts]

theorem Descriptor.recast_array {kind : MapKind} {known given : Field → String}
    {element : Descriptor} {options : ArrayOptions} {value : Value} {items : List Value}
    (parts : value.items? = some items) :
    (Descriptor.array element options).recast kind known given value =
      .list (items.map (element.recast kind known given)) := by
  rw [recast, parts]

/-! ### Fields -/

/-- The field that is known by a key. -/
def Field.knownAs (known : Field → String) (fields : List Field) (key : Value) :
    Option Field :=
  fields.find? (fun field => key.eqv (.text (known field)))

theorem Field.knownAs_wireKey (fields : List Field) (key : Value) :
    Field.knownAs Field.wireKey fields key = Field.ofKey? fields key := rfl

theorem Field.knownAs_of_mem {known : Field → String} {fields : List Field}
    (distinct : (fields.map known).Nodup) {field : Field} (member : field ∈ fields) :
    Field.knownAs known fields (.text (known field)) = some field := by
  obtain ⟨first, found⟩ :
      ∃ first, Field.knownAs known fields (.text (known field)) = some first := by
    rw [← Option.isSome_iff_exists, Field.knownAs, List.find?_isSome]
    exact ⟨field, member, by simp⟩
  have same : known field = known first := by simpa using List.find?_some found
  rw [found, List.inj_on_of_nodup_map distinct (List.mem_of_find?_eq_some found) member same.symm]

theorem entryProblems_eq (fields : List Field) (entry : Value × Value) :
    entryProblems fields entry =
      match Field.ofKey? fields entry.1 with
      | some field => located [entry.1] (field.descriptor.problems entry.2)
      | none => [.unknownField [entry.1] entry.1.display] := by
  induction fields with
  | nil => rfl
  | cons field rest induction =>
      obtain ⟨name, descriptor, optional, key⟩ := field
      rw [entryProblems, induction, Field.ofKey?, Field.ofKey?, List.find?_cons, Field.wireKey]
      cases entry.1.eqv (.text (key.getD name)) <;> rfl

theorem recastEntry_eq {kind : MapKind} {known given : Field → String} (fields : List Field)
    (entry : Value × Value) :
    recastEntry kind known given fields entry =
      match Field.knownAs known fields entry.1 with
      | some field => (.text (given field), field.descriptor.recast kind known given entry.2)
      | none => entry := by
  induction fields with
  | nil => rfl
  | cons field rest induction =>
      obtain ⟨name, descriptor, optional, key⟩ := field
      rw [recastEntry, induction, Field.knownAs, Field.knownAs, List.find?_cons]
      cases entry.1.eqv (.text (known ⟨name, descriptor, optional, key⟩)) <;> rfl

/-! ### The conversion of a value as a whole -/

/-- A conversion that consults no reference: it adds the problems, and gives the record if
there are none. -/
structure Descriptor.Converts (node : Descriptor) (value result : Value) : Prop where
  runs : ∀ expand path found, value.convertWith expand node path found =
    pure (result, found ++ located path (node.problems value))
  recasts : node.problems value = [] → result = node.toRecord value

section Walking

variable {expand : Expansion} {path : Location} {found : List Failure}

theorem Value.convertWith_mapping (value : Value) (fields : List Field) (nullable : Bool) :
    value.convertWith expand (.mapping fields nullable) path found =
      match value.entries? with
      | some entries => do
          let (record, found) ← convertEntries expand entries fields path [] found
          return (.map .record record, found)
      | none => return (.null, found ++ located path (shapeProblems nullable "object" value)) := by
  cases value with
  | null =>
      cases nullable <;>
        simp [convertWith, convertWhole, entries?, shapeProblems, located, Failure.shapeMismatch,
          Failure.rebase]
  | _ =>
      simp [convertWith, convertWhole, entries?, shapeProblems, located, Failure.shapeMismatch,
        Failure.rebase]

theorem Value.convertWith_array (value : Value) (element : Descriptor)
    (options : ArrayOptions) :
    value.convertWith expand (.array element options) path found =
      match value.items? with
      | some items => do
          let (items, found) ← convertItems expand items element path 0 found
          return (.list items, found)
      | none =>
          return (.null, found ++ located path (shapeProblems options.nullable "array" value)) := by
  cases value with
  | null =>
      cases nullable : options.nullable <;>
        simp [convertWith, convertWhole, items?, shapeProblems, nullable, located,
          Failure.shapeMismatch, Failure.rebase]
  | _ =>
      simp [convertWith, convertWhole, items?, shapeProblems, located, Failure.shapeMismatch,
        Failure.rebase]

end Walking

/-! ### The conversion of parts -/

namespace Entries

theorem insert_of_fresh {record : Entries} {name : String} {value : Value}
    (fresh : ∀ old ∈ record, old.1 ≠ .text name) :
    record.insert (.text name) value = record ++ [(.text name, value)] := by
  induction record with
  | nil => rfl
  | cons old rest induction =>
      obtain ⟨key, kept⟩ := old
      rw [List.forall_mem_cons] at fresh
      have differs : (Value.text name).eqv key = false := by
        rw [Bool.eq_false_iff]
        intro equal
        exact fresh.1 ((Value.eqv_text_left name key).mp equal)
      rw [Entries.insert, differs, induction fresh.2]
      rfl

/-- No field that an entry belongs to has its name in the record yet. -/
def FreshFor (entries : Entries) (fields : List Field) (record : Entries) : Prop :=
  ∀ entry ∈ entries, ∀ field, Field.ofKey? fields entry.1 = some field →
    ∀ old ∈ record, old.1 ≠ .text field.name

/-- Two entries with distinct keys belong to fields of distinct names. -/
theorem FreshFor.written {fields : List Field} (names : (fields.map Field.name).Nodup)
    {key : Value} {entries record : Entries} (fresh : entries.FreshFor fields record)
    (distinct : ∀ later ∈ entries, key.eqv later.1 = false) {field : Field}
    (belongs : Field.ofKey? fields key = some field) (value : Value) :
    entries.FreshFor fields (record ++ [(.text field.name, value)]) := by
  intro later member other further old written
  rcases List.mem_append.mp written with before | now
  · exact fresh later member other further old before
  · rw [List.mem_singleton.mp now]
    intro clash
    obtain ⟨among, own⟩ := Field.ofKey?_eq_some belongs
    obtain ⟨otherAmong, otherKey⟩ := Field.ofKey?_eq_some further
    have one : field = other :=
      List.inj_on_of_nodup_map names among otherAmong (Value.text.inj clash)
    have differs := distinct later member
    rw [own, otherKey, one, Bool.eq_false_iff] at differs
    exact differs ((Value.eqv_text_right _ _).mpr rfl)

end Entries

theorem convertEntries_converts {fields : List Field} (names : (fields.map Field.name).Nodup)
    (entries : Entries) (distinct : entries.Pairwise (fun a b => a.1.eqv b.1 = false))
    (each : ∀ entry ∈ entries, ∀ field, Field.ofKey? fields entry.1 = some field →
      ∃ result, field.descriptor.Converts entry.2 result)
    (record : Entries) (fresh : entries.FreshFor fields record) :
    ∃ final, (∀ expand path found, convertEntries expand entries fields path record found =
        pure (final, found ++ located path (entries.flatMap (entryProblems fields)))) ∧
      (entries.flatMap (entryProblems fields) = [] →
        final = record ++ entries.map (recastEntry .record Field.wireKey Field.name fields)) := by
  induction entries generalizing record with
  | nil => exact ⟨record, fun _ _ _ => by simp [convertEntries], fun _ => by simp⟩
  | cons entry rest induction =>
      obtain ⟨key, item⟩ := entry
      rw [List.pairwise_cons] at distinct
      rw [List.forall_mem_cons] at each
      rw [Entries.FreshFor, List.forall_mem_cons] at fresh
      rw [List.flatMap_cons, List.map_cons, entryProblems_eq, recastEntry_eq,
        Field.knownAs_wireKey]
      cases belongs : Field.ofKey? fields key with
      | none =>
          obtain ⟨final, runs, _⟩ := induction distinct.2 each.2 record fresh.2
          refine ⟨final, fun expand path found => ?_,
            fun none => absurd none (List.cons_ne_nil _ _)⟩
          rw [convertEntries]
          simp only [belongs, runs, located_append, List.append_assoc]
          rfl
      | some field =>
          obtain ⟨result, converts⟩ := each.1 field belongs
          have further := Entries.FreshFor.written names fresh.2 distinct.1 belongs result
          obtain ⟨final, runs, recasts⟩ := induction distinct.2 each.2 _ further
          refine ⟨final, fun expand path found => ?_, fun none => ?_⟩
          · rw [convertEntries]
            simp only [belongs, converts.runs, pure_bind]
            rw [Entries.insert_of_fresh (fresh.1 field belongs), runs, located_append,
              located_located, List.append_assoc]
          · obtain ⟨own, others⟩ := List.append_eq_nil_iff.mp none
            rw [recasts others, converts.recasts (located_eq_nil.mp own), List.append_assoc]
            rfl

theorem convertItems_converts {element : Descriptor} (items : List Value)
    (each : ∀ item ∈ items, ∃ result, element.Converts item result) (position : Nat) :
    let problems := (items.zipIdx position).flatMap
      (fun item => located [.int item.2] (element.problems item.1))
    ∃ results, (∀ expand path found, convertItems expand items element path position found =
        pure (results, found ++ located path problems)) ∧
      (problems = [] → results = items.map element.toRecord) := by
  induction items generalizing position with
  | nil => exact ⟨[], fun _ _ _ => by simp [convertItems], fun _ => rfl⟩
  | cons item rest induction =>
      rw [List.forall_mem_cons] at each
      obtain ⟨result, converts⟩ := each.1
      obtain ⟨results, runs, recasts⟩ := induction each.2 (position + 1)
      intro problems
      simp only [problems, List.zipIdx_cons, List.flatMap_cons]
      refine ⟨result :: results, fun expand path found => ?_, fun none => ?_⟩
      · rw [convertItems, converts.runs, pure_bind]
        dsimp only
        rw [runs, pure_bind, located_append, located_located, List.append_assoc]
      · obtain ⟨own, others⟩ := List.append_eq_nil_iff.mp none
        rw [recasts others, converts.recasts (located_eq_nil.mp own), List.map_cons]

/-! ### Trees without references -/

theorem shapeProblems_eq_nil {nullable : Bool} {expected : String} {value : Value} :
    shapeProblems nullable expected value = [] ↔ value = .null ∧ nullable = true := by
  cases value <;> cases nullable <;> simp [shapeProblems]

namespace Descriptor

variable {node : Descriptor} {value : Value}

theorem exists_converts (free : node.ProviderFree) (checked : node.Checked)
    (distinct : value.KeysDistinct) : ∃ result, node.Converts value result := by
  refine checked_induction (motive := fun node => ∀ value : Value, value.KeysDistinct →
    ∃ result, node.Converts value result)
    ?primitive ?mapping ?array node free checked value distinct
  case primitive =>
      intro options value _
      refine ⟨value, fun expand path found => ?_, fun _ => rfl⟩
      cases value <;> simp [Value.convertWith, convertWhole, problems]
  case mapping =>
      intro fields nullable names _ inside value distinct
      cases parts : value.entries? with
      | none =>
          refine ⟨.null, fun expand path found => ?_, fun none => ?_⟩
          · simp only [Value.convertWith_mapping, problems, parts]
          · simp only [problems, parts, shapeProblems_eq_nil] at none
            rw [none.1]
            rfl
      | some entries =>
          obtain ⟨kind, rfl⟩ := Value.entries?_eq_some.mp parts
          obtain ⟨final, runs, recasts⟩ := convertEntries_converts names entries distinct.1
            (fun entry member field belongs =>
              inside field (Field.ofKey?_eq_some belongs).1 entry.2
                (entriesEvery_iff.mp distinct.2 entry member))
            [] (fun _ _ _ _ => List.forall_mem_nil _)
          refine ⟨.map .record final, fun expand path found => ?_, fun none => ?_⟩
          · simp only [Value.convertWith_mapping, problems, parts, runs, pure_bind]
          · rw [recasts none, toRecord, recast_mapping parts, List.nil_append]
  case array =>
      intro element options inside value distinct
      cases parts : value.items? with
      | none =>
          refine ⟨.null, fun expand path found => ?_, fun none => ?_⟩
          · simp only [Value.convertWith_array, problems, parts]
          · simp only [problems, parts, shapeProblems_eq_nil] at none
            rw [none.1]
            rfl
      | some items =>
          have each : ∀ item ∈ items, item.KeysDistinct := Value.Every.items distinct parts
          obtain ⟨results, runs, recasts⟩ := convertItems_converts items
            (fun item member => inside item (each item member)) 0
          refine ⟨.list results, fun expand path found => ?_, fun none => ?_⟩
          · simp only [Value.convertWith_array, problems, parts, runs, pure_bind]
          · simp only [problems, parts] at none
            rw [recasts none, toRecord, recast_array parts]

/-- Without references a conversion fails with the problems of the value, or else gives
the record, in every session. -/
theorem outcome_convert (catalogue : Catalogue) (free : node.ProviderFree)
    (checked : node.Checked) (distinct : value.KeysDistinct) (session : Session) :
    (node.convert catalogue value).outcome session =
      match node.problems value with
      | [] => .ok (node.toRecord value)
      | problems => .error (.conversion problems .null) := by
  obtain ⟨result, runs, recasts⟩ := exists_converts free checked distinct
  have here : located [] (node.problems value) = node.problems value := by simp [located]
  rw [convert, completeConversion, runs, pure_bind, List.nil_append, here]
  cases problems : node.problems value with
  | nil => simp [recasts problems]
  | cons first rest => rfl

end Descriptor

end RecordSchema
