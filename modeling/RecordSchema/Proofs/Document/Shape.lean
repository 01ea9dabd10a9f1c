import RecordSchema.Proofs.Descriptor.Soundness
import RecordSchema.Proofs.Document.Description
import RecordSchema.Proofs.Document.Keywords

namespace RecordSchema

/-! The shape of compiled documents.  Whatever document is reached through properties and
items, it has the shape of one, and it is closed over the fields of the mapping that is
reached on the same way through the node. -/

/-! ### Ways into documents and nodes -/

inductive Step where
  | property (key : String)
  | items

namespace Entries

def child? (entries : Entries) : Step → Option Entries
  | .property key =>
      ((entries.get? "properties").bind Value.entries?).bind (fun parts =>
        (Entries.get? parts key).bind Value.entries?)
  | .items => (entries.get? "items").bind Value.entries?

/-- The document that is reached on a way. -/
def at? (entries : Entries) : List Step → Option Entries
  | [] => some entries
  | step :: way => (entries.child? step).bind (fun child => child.at? way)

end Entries

/-- The node that is reached on a way.  References are replaced by what they resolve to. -/
inductive Catalogue.Reaches (catalogue : Catalogue) : Descriptor → List Step → Descriptor → Prop
    where
  | here {node : Descriptor} (direct : ∀ provider options, node ≠ .ref provider options) :
      Reaches catalogue node [] node
  | field {fields : List Field} {nullable : Bool} {field : Field} {way : List Step}
      {shape : Descriptor} (among : field ∈ fields)
      (inside : Reaches catalogue field.descriptor way shape) :
      Reaches catalogue (.mapping fields nullable) (.property field.wireKey :: way) shape
  | element {element shape : Descriptor} {options : ArrayOptions} {way : List Step}
      (inside : Reaches catalogue element way shape) :
      Reaches catalogue (.array element options) (.items :: way) shape
  | resolved {provider : Value} {options : Entries} {session : Session}
      {resolved shape : Descriptor} {way : List Step}
      (given : (catalogue.resolve provider options).outcome session = .ok resolved)
      (inside : Reaches catalogue resolved way shape) :
      Reaches catalogue (.ref provider options) way shape

/-! ### The shape of a document -/

/-- What a document says of required keys: it lists those of the fields that are not
optional, if there are any, in strictly ascending order. -/
def RequiredBy (fields : List Field) : Option Value → Prop
  | none => ∀ field ∈ fields, field.optional = true
  | some value => ∃ keys : List String, value = .list (keys.map .text) ∧ keys ≠ [] ∧
      keys.Pairwise (· < ·) ∧
        ∀ key, key ∈ keys ↔ ∃ field ∈ fields, field.optional = false ∧ field.wireKey = key

/-- What a document says of the keys that a mapping has: it admits no others, and every
field has a document of its own. -/
structure Entries.ClosedOver (fields : List Field) (entries : Entries) : Prop where
  distinct : (fields.map Field.wireKey).Nodup
  closed : entries.get? "additionalProperties" = some (.bool false)
  properties : ∃ parts : Entries, entries.get? "properties" = some (.map .plain parts) ∧
    parts.map Prod.fst = fields.map (fun field => .text field.wireKey) ∧
    ∀ part ∈ parts, ∃ inner : Entries, part.2 = .map .plain inner
  required : RequiredBy fields (entries.get? "required")

/-- The entries of a well-formed document of the node, which stand after the keywords that
open it. -/
structure Entries.WellFormed (node : Descriptor) (opening : List String) (entries : Entries) :
    Prop where
  keywords : ∃ names : List String, names.Sublist Document.keywords ∧
    entries.map Prod.fst = (opening ++ names).map .text
  types : ∀ listed, entries.get? "type" = some (.list listed) →
    ∃ names : List String, listed = names.map .text ∧ names.count "null" ≤ 1
  members : ∀ value, entries.get? "enum" = some value → ∃ items, value = .list items ∧ items ≠ []
  items : ∀ value, entries.get? "items" = some value → ∃ inner : Entries, value = .map .plain inner
  object : (∃ properties, entries.get? "properties" = some properties) ↔
    entries.get? "type" = some (.text "object") ∨
      entries.get? "type" = some (.list [.text "object", .text "null"])
  mapping : (∃ properties, entries.get? "properties" = some properties) →
    ∃ fields nullable, node = .mapping fields nullable ∧ entries.ClosedOver fields

namespace TypeClause

def isObject (types : TypeClause) : Prop :=
  types.value = .text "object" ∨ types.value = .list [.text "object", .text "null"]

/-- Null is listed once at most. -/
def NullOnce (types : TypeClause) : Prop :=
  (types.names.map TypeName.name).count "null" ≤ 1

theorem nullOnce_orNull {type : TypeName} (other : type ≠ .null) (nullable : Bool) :
    (type.orNull nullable).NullOnce := by
  unfold NullOnce
  cases type <;> cases nullable <;> first | exact absurd rfl other | decide

theorem isObject_orNull {type : TypeName} (nullable : Bool) :
    (type.orNull nullable).isObject ↔ type = .object := by
  cases type <;> cases nullable <;>
    simp [isObject, TypeName.orNull, value, TypeName.name]

theorem NullOnce.listed {types : TypeClause} (once : types.NullOnce) {listed : List Value}
    (given : types.value = .list listed) :
    ∃ names : List String, listed = names.map .text ∧ names.count "null" ≤ 1 := by
  cases types with
  | one type => exact nomatch given
  | oneOf types =>
      refine ⟨types.map TypeName.name, ?_, once⟩
      rw [List.map_map]
      exact (Value.list.inj given).symm

end TypeClause

/-- Clauses as they stand beside the type where no properties are listed. -/
def Clause.Bare : Clause → Prop
  | .properties _ => False
  | .enum members => members.values ≠ []
  | _ => True

namespace Document

theorem get?_type (types : TypeClause) (rest : Document) :
    Entries.get? (clauseEntries (.type types :: rest)) "type" = some types.value :=
  Entries.get?_cons_self _ _ _

theorem listed_once {types : TypeClause} (once : types.NullOnce) {rest : Document}
    {listed : List Value}
    (found : Entries.get? (clauseEntries (.type types :: rest)) "type" = some (.list listed)) :
    ∃ names : List String, listed = names.map .text ∧ names.count "null" ≤ 1 :=
  once.listed (Option.some.inj ((get?_type types rest).symm.trans found))

theorem isObject_iff {types : TypeClause} {rest : Document} :
    types.isObject ↔
      Entries.get? (clauseEntries (.type types :: rest)) "type" = some (.text "object") ∨
        Entries.get? (clauseEntries (.type types :: rest)) "type" =
          some (.list [.text "object", .text "null"]) := by
  rw [get?_type, Option.some.injEq, Option.some.injEq]
  rfl

theorem exists_items {document : Document} {value : Value}
    (found : Entries.get? (clauseEntries document) "items" = some value) :
    ∃ items : Document, .items items ∈ document ∧ value = items.value := by
  obtain ⟨clause, among, named, rfl⟩ := exists_clause found
  cases clause with
  | items items => exact ⟨items, among, rfl⟩
  | _ => simp [Clause.keyword] at named

theorem exists_enum {document : Document} {value : Value}
    (found : Entries.get? (clauseEntries document) "enum" = some value) :
    ∃ members : Members, .enum members ∈ document ∧ value = .list members.values := by
  obtain ⟨clause, among, named, rfl⟩ := exists_clause found
  cases clause with
  | enum members => exact ⟨members, among, rfl⟩
  | _ => simp [Clause.keyword] at named

theorem exists_properties {document : Document} {value : Value}
    (found : Entries.get? (clauseEntries document) "properties" = some value) :
    ∃ properties, .properties properties ∈ document ∧
      value = .map .plain (propertyEntries properties) := by
  obtain ⟨clause, among, named, rfl⟩ := exists_clause found
  cases clause with
  | properties properties => exact ⟨properties, among, rfl⟩
  | _ => simp [Clause.keyword] at named

theorem items_value {document : Document} {value : Value}
    (found : Entries.get? (clauseEntries document) "items" = some value) :
    ∃ inner : Entries, value = .map .plain inner := by
  obtain ⟨items, -, rfl⟩ := exists_items found
  exact ⟨_, rfl⟩

/-! ### Documents without properties -/

theorem wellFormed_of_bare {node : Descriptor} {types : TypeClause} {rest : Document}
    (lists : Lists keywords (.type types :: rest)) (once : types.NullOnce)
    (scalar : ¬ types.isObject) (bare : ∀ clause ∈ rest, clause.Bare) :
    Entries.WellFormed node [] (clauseEntries (.type types :: rest)) := by
  have bare : ∀ clause ∈ Clause.type types :: rest, clause.Bare :=
    List.forall_mem_cons.mpr ⟨trivial, bare⟩
  have closed :
      ¬ ∃ value, Entries.get? (clauseEntries (.type types :: rest)) "properties" = some value := by
    rintro ⟨value, found⟩
    obtain ⟨properties, among, -⟩ := exists_properties found
    exact bare _ among
  refine ⟨⟨_, lists, map_fst_clauseEntries _⟩, fun listed => listed_once once, ?_,
    fun _ => items_value, ?_, fun given => (closed given).elim⟩
  · intro value found
    obtain ⟨members, among, rfl⟩ := exists_enum found
    exact ⟨_, rfl, bare _ among⟩
  · rw [← isObject_iff]
    exact iff_of_false closed scalar

theorem bare_of_clauseOf {make : α → Clause} {given : Option α}
    (bare : ∀ bound, (make bound).Bare) : ∀ clause ∈ clauseOf make given, clause.Bare :=
  forall_mem_clauseOf.mpr (fun bound _ => bare bound)

theorem bare_of_enumClause {make : List α → Members} {given : Option (List α)}
    (filled : ∀ members, members ≠ [] → (make members).values ≠ []) :
    ∀ clause ∈ enumClause make given, clause.Bare :=
  forall_mem_enumClause.mpr (filled _)

theorem wellFormed_primitive (options : Primitive) :
    Entries.WellFormed (.primitive options) [] (clauseEntries options.document) := by
  have lists : Lists keywords options.document :=
    (lists_primitive options).within (List.sublist_append_left _ _)
  have plain {type : TypeName} (other : type ≠ .object) (nullable : Bool) :
      ¬ (type.orNull nullable).isObject := by
    rwa [TypeClause.isObject_orNull]
  cases options with
  | any nullable =>
      exact wellFormed_of_bare lists (by unfold TypeClause.NullOnce; decide)
        (by simp [TypeClause.isObject, TypeClause.value, TypeName.all]) (List.forall_mem_nil _)
  | null =>
      exact wellFormed_of_bare lists (by unfold TypeClause.NullOnce; decide)
        (by simp [TypeClause.isObject, TypeClause.value, TypeName.name]) (List.forall_mem_nil _)
  | boolean nullable =>
      exact wellFormed_of_bare lists (TypeClause.nullOnce_orNull (by decide) _)
        (plain (by decide) _) (List.forall_mem_nil _)
  | integer o =>
      refine wellFormed_of_bare lists (TypeClause.nullOnce_orNull (by decide) _)
        (plain (by decide) _) ?_
      exact List.forall_mem_append.mpr ⟨List.forall_mem_append.mpr
        ⟨bare_of_clauseOf (fun _ => trivial), bare_of_clauseOf (fun _ => trivial)⟩,
        bare_of_enumClause (fun _ filled => by simpa [Members.values] using filled)⟩
  | number o =>
      refine wellFormed_of_bare lists (TypeClause.nullOnce_orNull (by decide) _)
        (plain (by decide) _) ?_
      exact List.forall_mem_append.mpr
        ⟨bare_of_clauseOf (fun _ => trivial), bare_of_clauseOf (fun _ => trivial)⟩
  | string o =>
      refine wellFormed_of_bare lists (TypeClause.nullOnce_orNull (by decide) _)
        (plain (by decide) _) ?_
      refine List.forall_mem_append.mpr ⟨List.forall_mem_append.mpr ⟨List.forall_mem_append.mpr
        ⟨bare_of_clauseOf (fun _ => trivial), bare_of_clauseOf (fun _ => trivial)⟩, ?_⟩,
        bare_of_clauseOf (fun _ => trivial)⟩
      exact bare_of_enumClause (fun _ filled => by simpa [Members.values] using filled)

theorem wellFormed_array {node : Descriptor} (options : ArrayOptions) (items : Document) :
    Entries.WellFormed node [] (clauseEntries
      (.type (TypeName.array.orNull options.nullable) :: .items items :: options.clauses)) := by
  refine wellFormed_of_bare (lists_array _ items options)
    (TypeClause.nullOnce_orNull (by decide) _) (by simp [TypeClause.isObject_orNull]) ?_
  exact List.forall_mem_cons.mpr ⟨trivial, List.forall_mem_append.mpr
    ⟨bare_of_clauseOf (fun _ => trivial), bare_of_clauseOf (fun _ => trivial)⟩⟩

/-! ### Documents of mappings -/

theorem map_fst_propertyEntries (properties : List (String × Document)) :
    (propertyEntries properties).map Prod.fst = (properties.map Prod.fst).map .text := by
  induction properties with
  | nil => rfl
  | cons property rest induction =>
      rw [propertyEntries, List.map_cons, List.map_cons, List.map_cons, induction]

theorem snd_of_mem_propertyEntries {properties : List (String × Document)}
    {part : Value × Value} (among : part ∈ propertyEntries properties) :
    ∃ inner : Entries, part.2 = .map .plain inner := by
  induction properties with
  | nil => exact nomatch among
  | cons property rest induction =>
      rw [propertyEntries, List.mem_cons] at among
      rcases among with rfl | among
      · exact ⟨clauseEntries property.2, rfl⟩
      · exact induction among

theorem get?_required (fields : List Field) (nullable : Bool)
    (properties : List (String × Document)) :
    Entries.get? (clauseEntries (mappingDocument fields nullable properties)) "required" =
      if (Descriptor.requiredKeys fields).isEmpty then none
      else some (.list ((Descriptor.requiredKeys fields).map .text)) := by
  cases required : Descriptor.requiredKeys fields <;>
    simp [mappingDocument, required, clauseEntries, Clause.entry, Entries.get?_cons_of_ne]

theorem requiredBy_mapping (fields : List Field) (nullable : Bool)
    (properties : List (String × Document)) (distinct : (fields.map Field.wireKey).Nodup) :
    RequiredBy fields (Entries.get?
      (clauseEntries (mappingDocument fields nullable properties)) "required") := by
  rw [get?_required]
  by_cases none : Descriptor.requiredKeys fields = []
  · rw [none]
    intro field among
    by_contra mandatory
    have listed : field.wireKey ∈ Descriptor.requiredKeys fields :=
      mem_requiredKeys.mpr ⟨field, among, by simpa using mandatory, rfl⟩
    rw [none] at listed
    exact nomatch listed
  · rw [if_neg (by simpa using none)]
    exact ⟨_, rfl, none, Descriptor.requiredKeys_ascending distinct, fun _ => mem_requiredKeys⟩

theorem wellFormed_mapping {refs : Value → Entries → Document → Prop} {fields : List Field}
    {properties : List (String × Document)} (nullable : Bool)
    (distinct : (fields.map Field.wireKey).Nodup)
    (described : fieldsDescribedBy refs fields properties) :
    Entries.WellFormed (.mapping fields nullable) []
      (clauseEntries (mappingDocument fields nullable properties)) := by
  let document := mappingDocument fields nullable properties
  have object : (TypeName.object.orNull nullable).isObject := by simp [TypeClause.isObject_orNull]
  have held : Entries.get? (clauseEntries document) "properties" =
      some (.map .plain (propertyEntries properties)) := by
    simp [document, mappingDocument, clauseEntries, Clause.entry, Entries.get?_cons_of_ne]
  have closed : Entries.get? (clauseEntries document) "additionalProperties" =
      some (.bool false) := by
    simp [document, mappingDocument, clauseEntries, Clause.entry, Entries.get?_cons_of_ne]
  have keys : (propertyEntries properties).map Prod.fst =
      fields.map (fun field => .text field.wireKey) := by
    rw [map_fst_propertyEntries, map_fst_of_fieldsDescribedBy fields described, List.map_map]
    rfl
  refine ⟨⟨_, lists_mapping fields nullable properties, map_fst_clauseEntries _⟩,
    fun listed => listed_once (TypeClause.nullOnce_orNull (by decide) _), ?_,
    fun _ => items_value, ?_, fun _ => ⟨fields, nullable, rfl, distinct, closed,
      ⟨_, held, keys, fun part among => snd_of_mem_propertyEntries among⟩,
      requiredBy_mapping fields nullable properties distinct⟩⟩
  · intro value found
    obtain ⟨members, among, rfl⟩ := exists_enum found
    simp [mappingDocument] at among
  · exact iff_of_true ⟨_, held⟩ (isObject_iff.mp object)

end Document

end RecordSchema
