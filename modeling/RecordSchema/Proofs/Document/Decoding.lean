import RecordSchema.Document.Rendering
import RecordSchema.Proofs.Descriptor.Checked
import RecordSchema.Proofs.Document.Meaning

namespace RecordSchema

/-! What a document keeps of the tree that it was compiled from.  It can be decoded into the
tree again, but for field names, empty enumerations and the option of `any`. -/

/-! ### Erasure -/

def Primitive.erased : Primitive → Primitive
  | .integer options => .integer { options with enum := options.enum.filter (!·.isEmpty) }
  | .string options => .string { options with enum := options.enum.filter (!·.isEmpty) }
  | .any _ => .any false
  | options => options

mutual
/-- The tree without what documents leave out.  A field goes by its key. -/
def Descriptor.erased : Descriptor → Descriptor
  | .primitive options => .primitive options.erased
  | .mapping fields nullable => .mapping (erasedFields fields) nullable
  | .array element options => .array element.erased options
  | .ref provider options => .ref provider options
  | .foreign value => .foreign value
termination_by structural node => node

def erasedFields : List Field → List Field
  | [] => []
  | ⟨name, descriptor, optional, key⟩ :: rest =>
      ⟨key.getD name, descriptor.erased, optional, none⟩ :: erasedFields rest
termination_by structural fields => fields
end

theorem erasedFields_eq_map (fields : List Field) :
    erasedFields fields = fields.map (fun field =>
      ⟨field.wireKey, field.descriptor.erased, field.optional, none⟩) := by
  induction fields with
  | nil => rfl
  | cons field rest induction =>
      obtain ⟨name, descriptor, optional, key⟩ := field
      rw [erasedFields, induction]
      rfl

theorem enumClause_filter {members : List α → Members} (enum : Option (List α)) :
    enumClause members (enum.filter (!·.isEmpty)) = enumClause members enum := by
  match enum with
  | none => rfl
  | some [] => rfl
  | some (_ :: _) => rfl

theorem Primitive.document_erased (options : Primitive) :
    options.erased.document = options.document := by
  cases options <;> simp [erased, document, enumClause_filter]

theorem mappingDocument_erased (fields : List Field) (nullable : Bool)
    (properties : List (String × Document)) :
    mappingDocument (erasedFields fields) nullable properties =
      mappingDocument fields nullable properties := by
  have required : Descriptor.requiredKeys (erasedFields fields) =
      Descriptor.requiredKeys fields := by
    simp [Descriptor.requiredKeys, erasedFields_eq_map, List.filter_map, Function.comp_def]
  rw [mappingDocument, required, mappingDocument]

mutual
/-- What is erased does not matter to compilation. -/
theorem Descriptor.compileWith_erased (expand : Value → Entries → Action Document) :
    (node : Descriptor) → node.erased.compileWith expand = node.compileWith expand
  | .primitive options => by
      rw [Descriptor.erased, Descriptor.compileWith, Descriptor.compileWith,
        options.document_erased]
  | .mapping fields nullable => by
      rw [Descriptor.erased, Descriptor.compileWith, Descriptor.compileWith,
        compileFieldsWith_erased expand fields]
      simp only [mappingDocument_erased]
  | .array element options => by
      rw [Descriptor.erased, Descriptor.compileWith, Descriptor.compileWith,
        element.compileWith_erased expand]
  | .ref _ _ => rfl
  | .foreign _ => rfl
termination_by structural node => node

theorem compileFieldsWith_erased (expand : Value → Entries → Action Document) :
    (fields : List Field) →
      compileFieldsWith expand (erasedFields fields) = compileFieldsWith expand fields
  | [] => rfl
  | ⟨name, descriptor, optional, key⟩ :: rest => by
      rw [erasedFields, compileFieldsWith, compileFieldsWith, descriptor.compileWith_erased expand,
        compileFieldsWith_erased expand rest]
      rfl
termination_by structural fields => fields
end

/-! ### Decoding -/

namespace Value

def int? : Value → Option Int
  | .number (.int value) => some value
  | _ => none

def bound? : Value → Option Number
  | .number value => some value
  | _ => none

def count? : Value → Option Nat
  | .number (.int (.ofNat value)) => some value
  | _ => none

def text? : Value → Option String
  | .text value => some value
  | _ => none

def format? : Value → Option Format
  | .text name => [Format.datetime, .email].find? (fun format => format.documentName = name)
  | _ => none

def members? (member? : Value → Option α) (value : Value) : Option (List α) :=
  value.items?.map (List.filterMap member?)

/-- The type that a document names, and whether it names null beside it. -/
def typeAndNull : Value → String × Bool
  | .text type => (type, false)
  | .list [.text type, .text _] => (type, true)
  -- The list of all types is that of `any`, whose option no document shows.
  | _ => (Kind.any.name, false)

end Value

namespace Entries

def read? (entries : Entries) (keyword : String) (part? : Value → Option α) : Option α :=
  (entries.get? keyword).bind part?

end Entries

def Primitive.ofDocument (nullable : Bool) (entries : Entries) : Kind → Primitive
  | .boolean => .boolean nullable
  | .integer =>
      .integer
        { nullable
          minimum := entries.read? "minimum" Value.int?
          maximum := entries.read? "maximum" Value.int?
          enum := entries.read? "enum" (Value.members? Value.int?) }
  | .number =>
      .number
        { nullable
          minimum := entries.read? "minimum" Value.bound?
          maximum := entries.read? "maximum" Value.bound? }
  | .null => .null
  | .string =>
      .string
        { nullable
          minLength := entries.read? "minLength" Value.count?
          maxLength := entries.read? "maxLength" Value.count?
          enum := entries.read? "enum" (Value.members? Value.text?)
          format := entries.read? "format" Value.format? }
  | .any => .any false

def ArrayOptions.ofDocument (nullable : Bool) (entries : Entries) : ArrayOptions where
  nullable := nullable
  minItems := entries.read? "minItems" Value.count?
  maxItems := entries.read? "maxItems" Value.count?

/-- The fields of a mapping, from the nodes of its properties and the keys it requires. -/
def fieldsOfDocument (required : List String) (properties : List (String × Descriptor)) :
    List Field :=
  properties.map (fun property => ⟨property.1, property.2, !required.contains property.1, none⟩)

mutual
/-- The node that a document, as a plain mapping, describes. -/
def Value.decoded : Value → Descriptor
  | .map _ entries =>
      let (type, nullable) :=
        (Entries.get? entries "type").elim (Kind.any.name, false) Value.typeAndNull
      match Kind.ofName? type with
      | some kind => .primitive (.ofDocument nullable entries kind)
      | none =>
          if type = TypeName.object.name then
            let required := Entries.read? entries "required" (Value.members? Value.text?)
            .mapping (fieldsOfDocument (required.getD []) (decodedProperties entries)) nullable
          else .array (decodedItems entries) (.ofDocument nullable entries)
  | _ => .primitive (.any false)
termination_by structural value => value

def decodedItems : List (Value × Value) → Descriptor
  | [] => .primitive (.any false)
  | (key, value) :: rest =>
      if key.eqv (.text "items") then value.decoded else decodedItems rest
termination_by structural entries => entries

def decodedProperties : List (Value × Value) → List (String × Descriptor)
  | [] => []
  | (key, value) :: rest =>
      if key.eqv (.text "properties") then
        match value with
        | .map _ properties => decodedParts properties
        | _ => []
      else decodedProperties rest
termination_by structural entries => entries

def decodedParts : List (Value × Value) → List (String × Descriptor)
  | [] => []
  | (key, value) :: rest =>
      match key with
      | .text name => (name, value.decoded) :: decodedParts rest
      | _ => decodedParts rest
termination_by structural entries => entries
end

/-! ### Decoding after compilation -/

theorem clauseEntries_eq_map (document : Document) :
    clauseEntries document = document.map Clause.entry := by
  induction document with
  | nil => rfl
  | cons clause rest induction => rw [clauseEntries, induction, List.map_cons]

theorem Entries.get?_cons (key name : String) (item : Value) (rest : Entries) :
    Entries.get? ((.text key, item) :: rest) name =
      if key = name then some item else Entries.get? rest name := by
  by_cases same : key = name
  · subst same
    rw [get?_cons_self, if_pos rfl]
  · rw [get?_cons_of_ne (fun equal => same (Value.text.inj equal)), if_neg same]

theorem Entries.get?_append (entries rest : Entries) (name : String) :
    Entries.get? (entries ++ rest) name =
      (Entries.get? entries name).or (Entries.get? rest name) := by
  rw [Entries.get?, Entries.find?, List.find?_append, Option.map_or]
  rfl

theorem Kind.ofName?_name (kind : Kind) : Kind.ofName? kind.name = some kind := by
  cases kind <;> rfl

theorem TypeName.typeAndNull_orNull (type : TypeName) (nullable : Bool) :
    (type.orNull nullable).value.typeAndNull = (type.name, nullable) := by
  cases nullable <;> rfl

theorem get?_clauseOf (make : α → Clause) (given : Option α) (name : String) :
    Entries.get? ((clauseOf make given).map Clause.entry) name =
      given.bind (fun bound => Entries.get? [(make bound).entry] name) := by
  cases given <;> rfl

theorem get?_enumClause (make : List α → Members) (given : Option (List α)) (name : String) :
    Entries.get? ((enumClause make given).map Clause.entry) name =
      (given.filter (!·.isEmpty)).bind
        (fun members => Entries.get? [(Clause.enum (make members)).entry] name) := by
  match given with
  | none => rfl
  | some [] => rfl
  | some (_ :: _) => rfl

section Typed

variable {shape : MapKind} {entries : Entries} {given : Value} {nullable : Bool}

theorem Value.decoded_of_kind (kind : Kind) (typed : Entries.get? entries "type" = some given)
    (named : given.typeAndNull = (kind.name, nullable)) :
    (Value.map shape entries).decoded = .primitive (.ofDocument nullable entries kind) := by
  rw [decoded, typed, Option.elim_some, named]
  dsimp only
  rw [Kind.ofName?_name]

theorem Value.decoded_of_object (typed : Entries.get? entries "type" = some given)
    (named : given.typeAndNull = (TypeName.object.name, nullable)) :
    (Value.map shape entries).decoded =
      .mapping (fieldsOfDocument
        ((Entries.read? entries "required" (members? text?)).getD [])
        (decodedProperties entries)) nullable := by
  rw [decoded, typed, Option.elim_some, named]
  rfl

theorem Value.decoded_of_array (typed : Entries.get? entries "type" = some given)
    (named : given.typeAndNull = (TypeName.array.name, nullable)) :
    (Value.map shape entries).decoded =
      .array (decodedItems entries) (.ofDocument nullable entries) := by
  rw [decoded, typed, Option.elim_some, named]
  rfl

end Typed

theorem Value.count?_int (count : Nat) : (Value.int count).count? = some count :=
  rfl

theorem Value.members?_integers (members : List Int) :
    (Value.list (Members.integers members).values).members? int? = some members := by
  simp [members?, items?, Members.values, List.filterMap_map, Function.comp_def, int, int?]

theorem Value.members?_texts (members : List String) :
    (Value.list (Members.texts members).values).members? text? = some members := by
  simp [members?, items?, Members.values, List.filterMap_map, Function.comp_def, text?]

theorem Format.format?_documentName (format : Format) :
    (Value.text format.documentName).format? = some format := by
  cases format <;> rfl

theorem Primitive.decoded_document (options : Primitive) :
    (Document.value options.document).decoded = .primitive options.erased := by
  rw [Document.value, clauseEntries_eq_map]
  cases options with
  | any nullable => exact Value.decoded_of_kind .any rfl rfl
  | null => exact Value.decoded_of_kind .null rfl rfl
  | boolean nullable =>
      exact Value.decoded_of_kind .boolean rfl (TypeName.typeAndNull_orNull _ _)
  | integer options =>
      rw [Value.decoded_of_kind .integer rfl (TypeName.typeAndNull_orNull _ _)]
      simp [ofDocument, erased, document, Entries.read?, Entries.get?_append, Entries.get?_cons,
        Clause.entry, get?_clauseOf, get?_enumClause, Option.bind_assoc, Value.int?,
        Value.members?_integers]
  | number options =>
      obtain ⟨nullable, minimum, maximum⟩ := options
      rw [Value.decoded_of_kind .number rfl (TypeName.typeAndNull_orNull _ _)]
      simp [ofDocument, erased, document, Entries.read?, Entries.get?_append, Entries.get?_cons,
        Clause.entry, get?_clauseOf, Option.bind_assoc, Value.bound?]
  | string options =>
      rw [Value.decoded_of_kind .string rfl (TypeName.typeAndNull_orNull _ _)]
      simp [ofDocument, erased, document, Entries.read?, Entries.get?_append, Entries.get?_cons,
        Clause.entry, get?_clauseOf, get?_enumClause, Option.bind_assoc, Value.count?_int,
        Value.members?_texts, Format.format?_documentName]

theorem decodedParts_propertyEntries (properties : List (String × Document)) :
    decodedParts (propertyEntries properties) =
      properties.map (fun property => (property.1, (Document.value property.2).decoded)) := by
  induction properties with
  | nil => rfl
  | cons property rest induction =>
      rw [propertyEntries, decodedParts, induction, List.map_cons]
      rfl

theorem arrayDocument_decoded (items : Document) (options : ArrayOptions) :
    (Document.value (.type (TypeName.array.orNull options.nullable) :: .items items ::
        options.clauses)).decoded =
      .array (Document.value items).decoded options := by
  obtain ⟨nullable, minItems, maxItems⟩ := options
  rw [Document.value, clauseEntries_eq_map,
    Value.decoded_of_array rfl (TypeName.typeAndNull_orNull _ _)]
  congr 1
  simp [ArrayOptions.ofDocument, ArrayOptions.clauses, Entries.read?, Entries.get?_append,
    Entries.get?_cons, Clause.entry, get?_clauseOf, Option.bind_assoc, Value.count?_int]

theorem members?_required (fields : List Field) (nullable : Bool)
    (properties : List (String × Document)) :
    (Entries.read? ((mappingDocument fields nullable properties).map Clause.entry) "required"
      (Value.members? Value.text?)).getD [] = Descriptor.requiredKeys fields := by
  unfold mappingDocument
  cases required : Descriptor.requiredKeys fields with
  | nil => rfl
  | cons key keys =>
      simp [Entries.read?, Entries.get?_cons, Clause.entry, Value.members?, Value.items?,
        List.filterMap_map, Function.comp_def, Value.text?]

theorem mappingDocument_decoded (fields : List Field) (nullable : Bool)
    (properties : List (String × Document)) :
    (Document.value (mappingDocument fields nullable properties)).decoded =
      .mapping (fieldsOfDocument (Descriptor.requiredKeys fields)
        (properties.map (fun property => (property.1, (Document.value property.2).decoded))))
        nullable := by
  rw [Document.value, clauseEntries_eq_map,
    Value.decoded_of_object rfl (TypeName.typeAndNull_orNull _ _), members?_required,
    ← decodedParts_propertyEntries]
  rfl

/-- What is required tells the optional fields, as no two of them have one key. -/
theorem optional_of_requiredKeys {fields : List Field}
    (distinct : (fields.map Field.wireKey).Nodup) {field : Field} (member : field ∈ fields) :
    (!(Descriptor.requiredKeys fields).contains field.wireKey) = field.optional := by
  have listed : field.wireKey ∈ Descriptor.requiredKeys fields ↔ field.optional = false := by
    rw [mem_requiredKeys]
    constructor
    · rintro ⟨other, among, mandatory, same⟩
      rwa [← List.inj_on_of_nodup_map distinct among member same]
    · exact fun mandatory => ⟨field, member, mandatory, rfl⟩
  cases optional : field.optional <;> simp [listed, optional]

theorem erasedFields_eq_fieldsOfDocument {fields : List Field}
    (distinct : (fields.map Field.wireKey).Nodup) :
    erasedFields fields =
      fieldsOfDocument (Descriptor.requiredKeys fields)
        (fields.map (fun field => (field.wireKey, field.descriptor.erased))) := by
  rw [erasedFields_eq_map, fieldsOfDocument, List.map_map]
  apply List.map_congr_left
  intro field member
  simp only [Function.comp_apply, optional_of_requiredKeys distinct member]

section Described

variable {refs : Value → Entries → Document → Prop}

theorem map_decoded_of_fieldsDescribedBy {fields : List Field}
    {properties : List (String × Document)} (described : fieldsDescribedBy refs fields properties)
    (inside : ∀ field ∈ fields, ∀ document, field.descriptor.DescribedBy refs document →
      (Document.value document).decoded = field.descriptor.erased) :
    properties.map (fun property => (property.1, (Document.value property.2).decoded)) =
      fields.map (fun field => (field.wireKey, field.descriptor.erased)) := by
  induction fields generalizing properties with
  | nil =>
      cases described
      rfl
  | cons field rest induction =>
      obtain ⟨name, descriptor, optional, key⟩ := field
      obtain ⟨document, others, first, tail, rfl⟩ := described
      rw [List.forall_mem_cons] at inside
      rw [List.map_cons, List.map_cons, induction tail inside.2, inside.1 document first]
      rfl

/-- A document tells the node that it describes, but for what is erased. -/
theorem Descriptor.decoded_of_describedBy (node : Descriptor) (free : node.ProviderFree)
    (checked : node.Checked) :
    ∀ document, node.DescribedBy refs document →
      (Document.value document).decoded = node.erased := by
  refine node.checked_induction
    (motive := fun node => ∀ document, node.DescribedBy refs document →
      (Document.value document).decoded = node.erased)
    ?primitive ?mapping ?array free checked
  case primitive =>
      rintro options document rfl
      exact options.decoded_document
  case mapping =>
      rintro fields nullable _ keys inside document ⟨properties, parts, rfl⟩
      rw [mappingDocument_decoded, map_decoded_of_fieldsDescribedBy parts inside,
        ← erasedFields_eq_fieldsOfDocument keys, erased]
  case array =>
      rintro element options inside document ⟨items, part, rfl⟩
      rw [arrayDocument_decoded, inside items part, erased]

end Described

namespace Descriptor

theorem compileWithin_erased (catalogue : Catalogue) (limit : Nat) (node : Descriptor) :
    node.erased.compileWithin catalogue limit = node.compileWithin catalogue limit := by
  cases limit <;> exact node.compileWith_erased _

theorem compile_erased (catalogue : Catalogue) (node : Descriptor) :
    node.erased.compile catalogue = node.compile catalogue :=
  compileWithin_erased catalogue expansionLimit node

/-- Two nodes have one document iff they are the same but for what is erased, and the
document can be decoded into what is left. -/
theorem compile_keeps_description (catalogue : Catalogue) (session later : Session)
    {first second : Descriptor} (free : first.ProviderFree) (checked : first.Checked)
    (otherFree : second.ProviderFree) (otherChecked : second.Checked) :
    ∃ document other,
      (first.compile catalogue).outcome session = .ok document ∧
        (second.compile catalogue).outcome later = .ok other ∧
        (document.value = other.value ↔ first.erased = second.erased) ∧
        document.value.decoded = first.erased := by
  obtain ⟨document, compiled⟩ := compile_of_providerFree catalogue free
  obtain ⟨other, otherCompiled⟩ := compile_of_providerFree catalogue otherFree
  have result : (first.compile catalogue).outcome session = .ok document := by
    rw [compiled, Action.outcome_pure]
  have otherResult : (second.compile catalogue).outcome later = .ok other := by
    rw [otherCompiled, Action.outcome_pure]
  have decodes : document.value.decoded = first.erased :=
    first.decoded_of_describedBy free checked document (describedBy_of_providerFree free result)
  have otherDecodes : other.value.decoded = second.erased :=
    second.decoded_of_describedBy otherFree otherChecked other
      (describedBy_of_providerFree otherFree otherResult)
  refine ⟨document, other, result, otherResult, ⟨?_, ?_⟩, decodes⟩
  · intro same
    rw [← decodes, ← otherDecodes, same]
  · intro same
    rw [← compile_erased, same, compile_erased, otherCompiled, Action.outcome_pure] at result
    rw [Except.ok.inj result]

/-- The document does not tell the names of keyed fields, nor an empty enumeration. -/
theorem compile_keeps_description_of_keyed_fields :
    let catalogue : Catalogue := fun _ => .delegating
    let first : Descriptor := .mapping
      [⟨"a", .primitive (.integer { enum := some [] }), true, some "b"⟩,
        ⟨"b", .primitive (.any true), false, some "c"⟩] true
    let second : Descriptor := .mapping
      [⟨"b", .primitive (.integer {}), true, none⟩,
        ⟨"c", .primitive (.any false), false, none⟩] true
    first.ProviderFree ∧ first.Checked ∧ second.ProviderFree ∧ second.Checked ∧
      ∃ document other,
        (first.compile catalogue).outcome {} = .ok document ∧
          (second.compile catalogue).outcome {} = .ok other ∧
          document.value = other.value ∧ document.value.decoded = second := by
  intro catalogue first second
  have free : first.ProviderFree := ⟨trivial, trivial, trivial⟩
  have checked : first.Checked := ⟨by decide, by decide, trivial, trivial, trivial⟩
  have otherFree : second.ProviderFree := ⟨trivial, trivial, trivial⟩
  have otherChecked : second.Checked := ⟨by decide, by decide, trivial, trivial, trivial⟩
  obtain ⟨document, other, compiled, otherCompiled, same, decodes⟩ :=
    compile_keeps_description catalogue {} {} free checked otherFree otherChecked
  exact ⟨free, checked, otherFree, otherChecked, document, other, compiled, otherCompiled,
    same.mpr rfl, decodes⟩

end Descriptor

end RecordSchema
