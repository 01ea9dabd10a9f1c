import RecordSchema.Proofs.Conversion.Blame
import RecordSchema.Proofs.Provider.Json
import RecordSchema.Proofs.Text.Lines

namespace RecordSchema

/-! The lines of a conversion error.  Each failure has a line to itself as long as nothing
that its text shows bare has a line break: a key on its path, a provider's name or reason.
A quoted key and the name of a shape never break a line. -/

namespace Failure

/-- What the text of a failure shows as it stands. -/
def shown (failure : Failure) : List String :=
  failure.path.map Value.display ++
    match failure.kind with
    | .stated => [failure.message]
    | .unknownField _ => []
    | .shapeMismatch expected actual => [expected, actual]
    | .providerRejection provider reason => [provider, reason.display]

/-- The lines that a listing of failures is made of. -/
def rows (failures : List Failure) : List String :=
  (toString failures.length ++ " conversion failure(s):") ::
    failures.map (fun failure => "  " ++ failure.text)

@[simp] theorem length_rows (failures : List Failure) :
    (rows failures).length = failures.length + 1 := by
  rw [rows, List.length_cons, List.length_map]

theorem describe_shapeMismatch (path : Location) (message expected actual : String) :
    describe ⟨path, message, .shapeMismatch expected actual⟩ =
      "expected " ++ expected ++ ", got " ++ actual := rfl

theorem describe_providerRejection (path : Location) (message provider : String)
    (reason : Value) : describe ⟨path, message, .providerRejection provider reason⟩ =
      provider ++ " rejected value: " ++ reason.display := rfl

theorem oneLine_path {path : Location} :
    Text.OneLine path.text ↔ ∀ step ∈ path, Text.OneLine step.display := by
  have separator : Text.OneLine "/" := by decide
  rw [Location.text, Text.oneLine_append, Text.oneLine_intercalate separator, List.forall_mem_map]
  exact and_iff_right separator

theorem oneLine_text_iff_describe {failure : Failure} :
    Text.OneLine failure.text ↔
      (∀ step ∈ failure.path, Text.OneLine step.display) ∧ Text.OneLine failure.describe := by
  have separator : Text.OneLine ": " := by decide
  rw [text, Text.oneLine_append, Text.oneLine_append, oneLine_path]
  exact and_congr_left (fun _ => and_iff_left separator)

theorem oneLine_text {failure : Failure} :
    Text.OneLine failure.text ↔ ∀ piece ∈ failure.shown, Text.OneLine piece := by
  obtain ⟨path, message, kind⟩ := failure
  rw [oneLine_text_iff_describe, shown, List.forall_mem_append, List.forall_mem_map]
  refine and_congr_right (fun _ => ?_)
  cases kind with
  | stated => simp [describe]
  | unknownField key =>
      have heading : Text.OneLine "unknown field " := by decide
      simp [describe, heading, oneLine_quoted]
  | shapeMismatch expected actual =>
      have between : Text.OneLine "expected " ∧ Text.OneLine ", got " := by decide
      simp [describe_shapeMismatch, between]
  | providerRejection provider reason =>
      have between : Text.OneLine " rejected value: " := by decide
      simp [describe_providerRejection, between]

theorem oneLine_rows {failures : List Failure} :
    (∀ row ∈ rows failures, Text.OneLine row) ↔
      ∀ failure ∈ failures, ∀ piece ∈ failure.shown, Text.OneLine piece := by
  have heading : Text.OneLine (toString failures.length ++ " conversion failure(s):") :=
    Text.oneLine_append.mpr ⟨Text.oneLine_toString _, by decide⟩
  have indent : Text.OneLine "  " := by decide
  rw [rows, List.forall_mem_cons, List.forall_mem_map]
  simp only [heading, Text.oneLine_append, indent, true_and, oneLine_text]

end Failure

namespace Error

theorem conversionMessage_eq {failures : List Failure} (failing : failures ≠ []) (reason : Value) :
    conversionMessage failures reason = String.intercalate "\n" (Failure.rows failures) := by
  obtain ⟨first, rest, rfl⟩ := List.exists_cons_of_ne_nil failing
  have heading (count : String) : count ++ " " ++ "conversion failure(s)" ++ ":" =
      count ++ " conversion failure(s):" := by
    rw [String.append_assoc, String.append_assoc]
    rfl
  have listed : conversionMessage (first :: rest) reason =
      listing ((first :: rest).map Failure.text) "conversion failure(s)" := rfl
  rw [listed, Failure.rows, ← heading, listing, List.length_map, List.map_map]
  rfl

theorem lines_conversionMessage {failures : List Failure} (failing : failures ≠ [])
    (reason : Value) :
    Text.lines (conversionMessage failures reason) = Failure.rows failures ↔
      ∀ failure ∈ failures, ∀ piece ∈ failure.shown, Text.OneLine piece := by
  have filled : Failure.rows failures ≠ [] := List.cons_ne_nil _ _
  rw [conversionMessage_eq failing, Text.lines_intercalate_eq_iff filled, Failure.oneLine_rows]

theorem length_lines_conversionMessage {failures : List Failure} (failing : failures ≠ [])
    (reason : Value) :
    (Text.lines (conversionMessage failures reason)).length = failures.length + 1 ↔
      ∀ failure ∈ failures, ∀ piece ∈ failure.shown, Text.OneLine piece := by
  have filled : Failure.rows failures ≠ [] := List.cons_ne_nil _ _
  rw [conversionMessage_eq failing, ← Failure.length_rows,
    Text.length_lines_intercalate_eq_iff filled, Failure.oneLine_rows]

end Error

/-! ### Failures of the walk itself -/

theorem Value.oneLine_shapeName : (value : Value) → value.Json → Text.OneLine value.shapeName
  | .null, _ => (by decide : Text.OneLine "null")
  | .bool _, _ => (by decide : Text.OneLine "bool")
  | .number (.int _), _ => (by decide : Text.OneLine "int")
  | .number (.float _), _ => (by decide : Text.OneLine "float")
  | .text _, _ => (by decide : Text.OneLine "str")
  | .list _, _ => (by decide : Text.OneLine "array")
  | .map .plain _, _ => (by decide : Text.OneLine "object")

/-- A failure that no reference is to blame for describes itself on one line. -/
def Descriptor.Tells (node : Descriptor) (place : Location) (failure : Failure) : Prop :=
  node.Blames place failure ∨ Text.OneLine failure.describe

namespace Grows

variable {blamed : Failure → Prop} {found later : List Failure}

theorem single {failure : Failure} (given : blamed failure) :
    Grows blamed found (found ++ [failure]) :=
  ⟨[failure], rfl, List.forall_mem_singleton.mpr given⟩

end Grows

section Walk

variable {holds : Session → Prop} {expand : Expansion}

theorem Failure.oneLine_describe_shapeMismatch {path : Location} {expected : String}
    {value : Value} (plain : Text.OneLine expected) (json : value.Json) :
    Text.OneLine (shapeMismatch path expected value).describe := by
  have between : Text.OneLine "expected " ∧ Text.OneLine ", got " := by decide
  rw [shapeMismatch, describe_shapeMismatch]
  simp [between, plain, value.oneLine_shapeName json]

theorem convertWhole_tells
    (expands : ∀ provider options value path found,
      (expand provider options value path found).Yields holds
        (fun result => Grows (fun failure => path <+: failure.path) found result.2))
    (node : Descriptor) {value : Value} (json : value.Json) (path : Location)
    (found : List Failure) :
    (convertWhole expand node value path found).Yields holds
      (fun result => Grows (node.Tells path) found result.2) := by
  unfold convertWhole
  split
  case h_1 => exact .pure .refl
  case h_2 =>
      split
      · exact .pure .refl
      · exact .pure (.single (.inr (Failure.oneLine_describe_shapeMismatch (by decide) json)))
  case h_3 =>
      split
      · exact .pure .refl
      · exact .pure (.single (.inr (Failure.oneLine_describe_shapeMismatch (by decide) json)))
  case h_4 provider options =>
      refine (expands provider options value path found).weaken (fun result grown => ?_)
      exact grown.weaken (fun failure below =>
        .inl ⟨[], by simpa using below, provider, options, rfl⟩)
  case h_5 => exact .fail _ _

mutual
theorem Value.convertWith_tells
    (expands : ∀ provider options value path found,
      (expand provider options value path found).Yields holds
        (fun result => Grows (fun failure => path <+: failure.path) found result.2)) :
    (value : Value) → value.Json → (node : Descriptor) → ∀ path found,
      (value.convertWith expand node path found).Yields holds
        (fun result => Grows (node.Tells path) found result.2)
  | .map .plain entries, json, node, path, found => by
      cases node with
      | mapping fields nullable =>
          exact .bind (convertEntries_tells expands entries json.2 fields nullable path [] found)
            (fun _ grown => .pure grown)
      | _ =>
          rw [Value.convertWith]
          · exact convertWhole_tells expands _ json path found
          · exact nofun
  | .list items, json, node, path, found => by
      cases node with
      | array element options =>
          exact .bind (convertItems_tells expands items json.2 element options path 0 found)
            (fun _ grown => .pure grown)
      | _ =>
          rw [Value.convertWith]
          · exact convertWhole_tells expands _ json path found
          · exact nofun
  | .null, json, node, path, found
  | .bool _, json, node, path, found
  | .number _, json, node, path, found
  | .text _, json, node, path, found => convertWhole_tells expands node json path found
termination_by structural value => value

theorem convertEntries_tells
    (expands : ∀ provider options value path found,
      (expand provider options value path found).Yields holds
        (fun result => Grows (fun failure => path <+: failure.path) found result.2)) :
    (entries : List (Value × Value)) → entriesEvery Value.JsonHere entries →
      (fields : List Field) → (nullable : Bool) → ∀ path record found,
      (convertEntries expand entries fields path record found).Yields holds
        (fun result => Grows ((Descriptor.mapping fields nullable).Tells path) found result.2)
  | [], _, _, _, _, _, _ => .pure .refl
  | (key, item) :: rest, json, fields, nullable, path, record, found => by
      have tail := convertEntries_tells expands rest json.2 fields nullable path
      rw [convertEntries]
      cases belongs : Field.ofKey? fields key with
      | none =>
          have quoting : Text.OneLine (Failure.unknownField (path ++ [key]) key.display).describe :=
            Text.oneLine_append.mpr ⟨by decide, oneLine_quoted _⟩
          exact (tail record _).weaken (fun _ more => (Grows.single (.inr quoting)).trans more)
      | some field =>
          have converts := item.convertWith_tells expands json.1 field.descriptor (path ++ [key])
          refine .bind (converts found) (fun result grown => ?_)
          refine (tail _ result.2).weaken (fun _ more => Grows.trans ?_ more)
          exact grown.weaken (fun failure =>
            Or.imp_left (Descriptor.blames_of_field belongs))
termination_by structural entries => entries

theorem convertItems_tells
    (expands : ∀ provider options value path found,
      (expand provider options value path found).Yields holds
        (fun result => Grows (fun failure => path <+: failure.path) found result.2)) :
    (items : List Value) → itemsEvery Value.JsonHere items → (element : Descriptor) →
      (options : ArrayOptions) → ∀ path position found,
      (convertItems expand items element path position found).Yields holds
        (fun result => Grows ((Descriptor.array element options).Tells path) found result.2)
  | [], _, _, _, _, _, _ => .pure .refl
  | item :: rest, json, element, options, path, position, found => by
      have tail := convertItems_tells expands rest json.2 element options path
      have converts := item.convertWith_tells expands json.1 element (path ++ [.int position])
      refine .bind (converts found) (fun result grown => ?_)
      refine .bind (tail (position + 1) result.2) (fun values more => .pure ?_)
      exact (grown.weaken (fun failure => Or.imp_left Descriptor.blames_of_item)).trans more
termination_by structural items => items
end

end Walk

theorem completeConversion_of_nil {expand : Expansion} {node : Descriptor} {value result : Value}
    {session : Session}
    (walked : (value.convertWith expand node [] []).outcome session = .ok (result, [])) :
    (completeConversion expand node value).outcome session = .ok result := by
  rw [completeConversion, Action.outcome_bind_of_ok walked]
  rfl

section Listing

variable {catalogue : Catalogue} {session : Session}

/-- The lines of a conversion error are its heading and its failures, each indented, iff no
failure shows a line break.  In JSON data only a key can bring one, unless a provider does. -/
theorem Descriptor.lines_of_failed_conversion (node : Descriptor) (value : Value)
    {failures : List Failure} {reason : Value}
    (failed : (node.convert catalogue value).outcome session =
      .error (.conversion failures reason)) :
    (failures ≠ [] →
      (Text.lines (Error.conversionMessage failures reason) = Failure.rows failures ↔
        ∀ failure ∈ failures, ∀ piece ∈ failure.shown, Text.OneLine piece) ∧
      ((Text.lines (Error.conversionMessage failures reason)).length = failures.length + 1 ↔
        ∀ failure ∈ failures, ∀ piece ∈ failure.shown, Text.OneLine piece)) ∧
    (catalogue.ResolvesPlainly → failures ≠ [] ∧
      (value.Json → ∀ failure ∈ failures,
        (∃ inner, inner <+: failure.path ∧
          ∃ provider options, node.at? inner = some (.ref provider options)) ∨
        (Text.OneLine failure.text ↔ ∀ step ∈ failure.path, Text.OneLine step.display))) := by
  refine ⟨fun failing => ⟨Error.lines_conversionMessage failing reason,
    Error.length_lines_conversionMessage failing reason⟩, fun plainly => ?_⟩
  obtain ⟨result, walked⟩ := (convert_failed failed).resolve_right plainly.not_misresolves
  constructor
  · rintro rfl
    rw [convert, completeConversion_of_nil walked] at failed
    cases failed
  · intro json failure member
    have tells := value.convertWith_tells (@expandWithin_grows catalogue expansionLimit) json
      node [] []
    obtain ⟨more, equal, each⟩ := tells.gives session _ trivial walked
    have among : failure ∈ more := by
      rw [show failures = more from equal] at member
      exact member
    refine (each failure among).imp (fun blames => ?_) (fun plain => ?_)
    · obtain ⟨inner, below, reached⟩ := blames
      exact ⟨inner, below, reached⟩
    · rw [Failure.oneLine_text_iff_describe]
      exact and_iff_left plain

theorem Descriptor.lines_of_failed_conversion_of_rejection :
    let catalogue : Catalogue := fun _ =>
      { resolve := fun _ _ => pure (.text "any")
        convertValue := fun _ _ _ _ => throw (.conversion [] (.text "closed")) }
    let gate : Descriptor := .ref (.provider { key := "Gate", typeName := "Gate" } 0) []
    let node : Descriptor := .mapping [⟨"a", gate, false, none⟩] false
    let value : Value := .map .plain [(.text "a", .int 1), (.text "b", .int 2)]
    let failures : List Failure :=
      [.providerRejection [.text "a"] "Gate" (.text "closed"), .unknownField [.text "b"] "b"]
    (node.convert catalogue value).outcome {} = .error (.conversion failures .null) ∧
      catalogue.ResolvesPlainly ∧ value.Json ∧
      Text.lines (Error.conversionMessage failures .null) = Failure.rows failures := by
  intro catalogue gate node value failures
  have failed : (node.convert catalogue value).outcome {} =
      .error (.conversion failures .null) := rfl
  have plainly : catalogue.ResolvesPlainly := nofun
  have json : value.Json := ⟨trivial, trivial, trivial, trivial⟩
  have shown : ∀ failure ∈ failures, ∀ piece ∈ failure.shown, Text.OneLine piece := by
    decide +kernel
  obtain ⟨listed, plain⟩ := lines_of_failed_conversion node value failed
  exact ⟨failed, plainly, json, (listed (plain plainly).1).1.mpr shown⟩

/-- A key with a line break takes its failure over two lines. -/
theorem Descriptor.failure_on_two_lines :
    let catalogue : Catalogue := fun _ =>
      { resolve := fun _ _ => pure (.text "any")
        convertValue := fun _ _ _ _ => throw (.conversion [] (.text "closed")) }
    let node : Descriptor := .mapping [] false
    let value : Value := .map .plain [(.text "a\nb", .int 1)]
    let failures : List Failure := [.unknownField [.text "a\nb"] "a\nb"]
    (node.convert catalogue value).outcome {} = .error (.conversion failures .null) ∧
      Text.lines (Error.conversionMessage failures .null) =
        ["1 conversion failure(s):", "  /a", "b: unknown field 'a\\nb'"] := by
  intro catalogue node value failures
  refine ⟨rfl, ?_⟩
  decide +kernel

end Listing

end RecordSchema
