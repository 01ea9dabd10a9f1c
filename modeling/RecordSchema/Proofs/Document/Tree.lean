import RecordSchema.Proofs.Descriptor.Construction
import RecordSchema.Proofs.Document.Shape

namespace RecordSchema

/-! Compiled documents as trees.  What stands below a document is the document of what
stands below the node, so every document in the tree is well formed. -/

/-! ### Documents below a document -/

/-- The document is below the clause, by the step. -/
def Clause.Has : Clause → Step → Document → Prop
  | .properties parts, .property key, inner => (key, inner) ∈ parts
  | .items document, .items, inner => inner = document
  | _, _, _ => False

theorem Clause.Has.keyword {clause : Clause} {step : Step} {inner : Document}
    (has : clause.Has step inner) : clause.keyword = "properties" ∨ clause.keyword = "items" := by
  cases clause with
  | properties properties => exact .inl rfl
  | items items => exact .inr rfl
  | _ => exact has.elim

namespace Document

theorem mem_of_get?_propertyEntries {properties : List (String × Document)} {key : String}
    {value : Value} (found : Entries.get? (propertyEntries properties) key = some value) :
    ∃ inner : Document, (key, inner) ∈ properties ∧ value = inner.value := by
  induction properties with
  | nil => exact nomatch found
  | cons property rest induction =>
      obtain ⟨name, document⟩ := property
      rw [propertyEntries] at found
      by_cases here : name = key
      · subst here
        rw [Entries.get?_cons_self] at found
        exact ⟨document, .head _, (Option.some.inj found).symm⟩
      · rw [Entries.get?_cons_of_ne (by simpa using here)] at found
        obtain ⟨inner, among, rfl⟩ := induction found
        exact ⟨inner, .tail _ among, rfl⟩

theorem has_of_child? {document : Document} {step : Step} {entries : Entries}
    (found : Entries.child? (clauseEntries document) step = some entries) :
    ∃ clause ∈ document, ∃ inner : Document, clause.Has step inner ∧
      entries = clauseEntries inner := by
  cases step with
  | property key =>
      obtain ⟨parts, held, found⟩ := Option.bind_eq_some_iff.mp found
      obtain ⟨value, named, map⟩ := Option.bind_eq_some_iff.mp held
      obtain ⟨properties, among, rfl⟩ := exists_properties named
      cases map
      obtain ⟨value, named, map⟩ := Option.bind_eq_some_iff.mp found
      obtain ⟨inner, part, rfl⟩ := mem_of_get?_propertyEntries named
      cases map
      exact ⟨_, among, inner, part, rfl⟩
  | items =>
      obtain ⟨value, named, map⟩ := Option.bind_eq_some_iff.mp found
      obtain ⟨items, among, rfl⟩ := exists_items named
      cases map
      exact ⟨_, among, items, rfl, rfl⟩

theorem Lists.not_has {names : List String} {document : Document} (lists : document.Lists names)
    (leaf : "properties" ∉ names ∧ "items" ∉ names) {clause : Clause} (among : clause ∈ document)
    {step : Step} {inner : Document} : ¬ clause.Has step inner := by
  intro has
  have listed : clause.keyword ∈ names := lists.subset (List.mem_map_of_mem among)
  rcases has.keyword with named | named
  · exact leaf.1 (named ▸ listed)
  · exact leaf.2 (named ▸ listed)

theorem array_has {types : TypeClause} {items : Document} {options : ArrayOptions}
    {clause : Clause} (among : clause ∈ Clause.type types :: .items items :: options.clauses)
    {step : Step} {inner : Document} (has : clause.Has step inner) :
    step = .items ∧ inner = items := by
  have bounds : options.clauses.Lists ["minItems", "maxItems"] := lists_bounds options
  rcases List.mem_cons.mp among with rfl | among
  · exact has.elim
  rcases List.mem_cons.mp among with rfl | among
  · cases step with
    | property key => exact has.elim
    | items => exact ⟨rfl, has⟩
  · exact (bounds.not_has (by decide) among has).elim

theorem mapping_has {fields : List Field} {nullable : Bool}
    {properties : List (String × Document)} {clause : Clause}
    (among : clause ∈ mappingDocument fields nullable properties) {step : Step} {inner : Document}
    (has : clause.Has step inner) : ∃ key, step = .property key ∧ (key, inner) ∈ properties := by
  let keeps (clause : Clause) : Prop :=
    clause.Has step inner → ∃ key, step = .property key ∧ (key, inner) ∈ properties
  have inside : keeps (.properties properties) := by
    intro has
    cases step with
    | property key => exact ⟨key, rfl, has⟩
    | items => exact has.elim
  have required (keys : List String) : keeps (.required keys) := fun has => has.elim
  have all : ∀ clause ∈ mappingDocument fields nullable properties, keeps clause :=
    (forall_mem_mappingDocument (required [])).mpr
      ⟨fun has => has.elim, fun has => has.elim, inside, required _⟩
  exact all clause among has

end Document

/-! ### The nodes of the documents below -/

namespace Catalogue

/-- Every document that is reached is a well-formed document of a node that is reached on
the same way. -/
def Documents (catalogue : Catalogue) (node : Descriptor) (document : Document) : Prop :=
  ∀ way inner, Entries.at? (clauseEntries document) way = some inner →
    ∃ shape, catalogue.Reaches node way shape ∧ inner.WellFormed shape []

variable {catalogue : Catalogue} {node : Descriptor} {document : Document}

theorem Documents.of_below (direct : ∀ provider options, node ≠ .ref provider options)
    (here : Entries.WellFormed node [] (clauseEntries document))
    (below : ∀ clause ∈ document, ∀ step inner, clause.Has step inner →
      ∃ child, catalogue.Documents child inner ∧ ∀ way shape,
        catalogue.Reaches child way shape → catalogue.Reaches node (step :: way) shape) :
    catalogue.Documents node document := by
  intro way inner found
  cases way with
  | nil =>
      cases found
      exact ⟨node, .here direct, here⟩
  | cons step way =>
      obtain ⟨entries, child, found⟩ := Option.bind_eq_some_iff.mp found
      obtain ⟨clause, among, part, has, rfl⟩ := Document.has_of_child? child
      obtain ⟨child, documents, onward⟩ := below clause among step part has
      obtain ⟨shape, reached, formed⟩ := documents way inner found
      exact ⟨shape, onward way shape reached, formed⟩

end Catalogue

variable {catalogue : Catalogue} {refs : Value → Entries → Document → Prop} {allowed : Prop}

mutual
/-- The document of a sound node, if that is so for references with sound options. -/
theorem Descriptor.documents_of_describedBy
    (resolved : ∀ provider options document, refs provider options document →
      entriesSound allowed options → catalogue.Documents (.ref provider options) document) :
    (node : Descriptor) → {document : Document} → node.Sound allowed →
      node.DescribedBy refs document → catalogue.Documents node document
  | .primitive options, document, _, described => by
      cases described
      refine .of_below (by simp) (Document.wellFormed_primitive options) ?_
      intro clause among step inner has
      exact ((Document.lists_primitive options).not_has (by decide) among has).elim
  | .mapping fields nullable, document, ⟨_, distinct, inside⟩, described => by
      obtain ⟨properties, parts, rfl⟩ := described
      refine .of_below (by simp) (Document.wellFormed_mapping nullable distinct parts) ?_
      intro clause among step inner has
      obtain ⟨key, rfl, part⟩ := Document.mapping_has among has
      obtain ⟨field, among, named, documents⟩ :=
        fields_document_of_describedBy resolved fields inside parts (key, inner) part
      cases named
      exact ⟨field.descriptor, documents, fun _ _ reached => .field among reached⟩
  | .array element options, document, sound, described => by
      obtain ⟨items, part, rfl⟩ := described
      refine .of_below (by simp) (Document.wellFormed_array options items) ?_
      intro clause among step inner has
      obtain ⟨rfl, rfl⟩ := Document.array_has among has
      exact ⟨element, element.documents_of_describedBy resolved sound part,
        fun _ _ reached => .element reached⟩
  | .ref provider options, document, sound, described =>
      resolved provider options document described sound.2.2
  | .foreign _, _, _, described => described.elim
termination_by structural node => node

theorem fields_document_of_describedBy
    (resolved : ∀ provider options document, refs provider options document →
      entriesSound allowed options → catalogue.Documents (.ref provider options) document) :
    (fields : List Field) → {properties : List (String × Document)} →
      fieldsSound allowed fields → fieldsDescribedBy refs fields properties →
        ∀ property ∈ properties, ∃ field ∈ fields, field.wireKey = property.1 ∧
          catalogue.Documents field.descriptor property.2
  | [], _, _, described => by
      cases described
      exact List.forall_mem_nil _
  | ⟨name, descriptor, optional, key⟩ :: rest, properties, sound, described => by
      obtain ⟨document, others, head, tail, rfl⟩ := described
      refine List.forall_mem_cons.mpr ⟨⟨_, .head _, rfl,
        descriptor.documents_of_describedBy resolved sound.1 head⟩, ?_⟩
      intro property among
      obtain ⟨field, member, named, documents⟩ :=
        fields_document_of_describedBy resolved rest sound.2 tail property among
      exact ⟨field, .tail _ member, named, documents⟩
termination_by structural fields => fields
end

/-! ### Compilation -/

/-- Given sound options, providers describe nodes by sound values, such as those that are
obtained through checks. -/
def Catalogue.ResolvesSound (catalogue : Catalogue) : Prop :=
  ∀ key id options, entriesSound True options →
    ((catalogue key).resolve id options).Gives (Value.Sound True)

theorem Catalogue.ResolvesSound.resolve (resolves : catalogue.ResolvesSound) (provider : Value)
    {options : Entries} (sound : entriesSound True options) :
    (catalogue.resolve provider options).Gives (Descriptor.Sound True) := by
  unfold Catalogue.resolve
  refine .after (fun provider => ?_)
  refine .bind (Action.copying_yields (Entries.delivery_sound sound)) (fun delivered given => ?_)
  split
  · refine .bind (resolves _ _ delivered given) (fun spec inside => ?_)
    have read := (Standard.sound True).read_yields inside (Standard.sound True).empty none
    exact ⟨fun _ _ => trivial, fun session node _ => read.gives session node (fun _ => trivial)⟩
  · exact .fault _ _

theorem Descriptor.compileWithin_documents (resolves : catalogue.ResolvesSound) (limit : Nat)
    (node : Descriptor) (sound : node.Sound True) :
    (node.compileWithin catalogue limit).Gives (catalogue.Documents node) := by
  induction limit generalizing node with
  | zero =>
      have expands (provider : Value) (options : Entries) :
          (Action.fault .recursion : Action Document).Gives (fun _ => False) := .fault _ _
      exact (node.compileWith_describes expands).weaken (fun document described =>
        node.documents_of_describedBy (fun _ _ _ given => given.elim) sound described)
  | succ limit induction =>
      let refs (provider : Value) (options : Entries) (document : Document) : Prop :=
        entriesSound True options → catalogue.Documents (.ref provider options) document
      refine (node.compileWith_describes ?_).weaken (fun document described =>
        node.documents_of_describedBy (fun _ _ _ (given : refs _ _ _) => given) sound described)
      intro provider options
      by_cases inside : entriesSound True options
      · refine .bind (resolves.resolve provider inside).witnessed ?_
        intro resolved ⟨sound, session, given⟩
        refine .after (fun _ => (induction resolved sound).weaken ?_)
        intro document documents _ way inner found
        obtain ⟨shape, reached, formed⟩ := documents way inner found
        exact ⟨shape, .resolved given reached, formed⟩
      · exact (Action.Yields.anything _).weaken (fun _ _ given => absurd given inside)

/-! ### The root -/

namespace Entries

variable {entries : Entries} {edition : Value}

theorem get?_opened {name : String} (other : name ≠ "$schema") :
    Entries.get? ((.text "$schema", edition) :: entries) name = entries.get? name :=
  get?_cons_of_ne (by simpa using other.symm) _ _

theorem at?_opened {step : Step} {way : List Step} :
    Entries.at? ((.text "$schema", edition) :: entries) (step :: way) =
      entries.at? (step :: way) := by
  cases step with
  | property key =>
      simp only [at?, child?]
      rw [get?_opened (by decide)]
  | items =>
      simp only [at?, child?]
      rw [get?_opened (by decide)]

theorem WellFormed.opened {node : Descriptor} (formed : entries.WellFormed node []) :
    Entries.WellFormed node ["$schema"] ((.text "$schema", edition) :: entries) := by
  obtain ⟨names, order, listed⟩ := formed.keywords
  refine ⟨⟨names, order, by rw [List.map_cons, listed]; rfl⟩, ?_, ?_, ?_, ?_, ?_⟩
  · rw [get?_opened (by decide)]
    exact formed.types
  · rw [get?_opened (by decide)]
    exact formed.members
  · rw [get?_opened (by decide)]
    exact formed.items
  · rw [get?_opened (by decide), get?_opened (by decide)]
    exact formed.object
  · rw [get?_opened (by decide)]
    intro listed
    obtain ⟨fields, nullable, rfl, closed⟩ := formed.mapping listed
    refine ⟨fields, nullable, rfl, closed.distinct, ?_, ?_, ?_⟩
    · rw [get?_opened (by decide)]
      exact closed.closed
    · rw [get?_opened (by decide)]
      exact closed.properties
    · rw [get?_opened (by decide)]
      exact closed.required

end Entries

/-- The keywords before those that describe the node.  Only the root names its edition. -/
def Document.opening (draft : Bool) : List Step → List String
  | [] => if draft then ["$schema"] else []
  | _ :: _ => []

/-- Every document within a compiled one is well formed, as the document of the node that is
reached on the same way. -/
theorem Descriptor.compiled_wellFormed {node : Descriptor} (resolves : catalogue.ResolvesSound)
    (sound : node.Sound True) {session : Session} {document : Document}
    (compiled : (node.compile catalogue).outcome session = .ok document) (draft : Bool) :
    ∃ root : Entries,
      (if draft then document.valueWithEdition else document.value) = .map .plain root ∧
        ∀ way inner, root.at? way = some inner →
          ∃ shape, catalogue.Reaches node way shape ∧
            inner.WellFormed shape (Document.opening draft way) := by
  have documents : catalogue.Documents node document :=
    (node.compileWithin_documents resolves expansionLimit sound).gives session document trivial
      compiled
  cases draft with
  | false =>
      refine ⟨clauseEntries document, rfl, fun way inner found => ?_⟩
      obtain ⟨shape, reached, formed⟩ := documents way inner found
      refine ⟨shape, reached, ?_⟩
      cases way with
      | nil => exact formed
      | cons step way => exact formed
  | true =>
      refine ⟨(.text "$schema", .text Document.edition) :: clauseEntries document, rfl, ?_⟩
      intro way inner found
      cases way with
      | nil =>
          cases found
          obtain ⟨shape, reached, formed⟩ := documents [] _ rfl
          exact ⟨shape, reached, formed.opened⟩
      | cons step way =>
          rw [Entries.at?_opened] at found
          exact documents (step :: way) inner found

theorem Descriptor.compiled_wellFormed_of_reference :
    let c : ProviderClass := { key := "Spec", typeName := "Spec" }
    let catalogue : Catalogue := fun _ =>
      { resolve := fun _ _ => pure (.text "string"), convertValue := fun _ _ _ value => pure value }
    let fields : List Field :=
      [⟨"size", .primitive (.integer { minimum := some 1, enum := some [1, 2] }), false,
          some "Size"⟩,
        ⟨"tags", .array (.ref (.provider c 0) []) { nullable := true, maxItems := some 3 }, true,
          none⟩,
        ⟨"site", .ref (.provider c 0) [], false, none⟩]
    let node : Descriptor := .mapping fields true
    let properties : List (String × Document) :=
      [("Size", [.type (.one .integer), .minimum (.int 1), .enum (.integers [1, 2])]),
        ("tags", [.type (.oneOf [.array, .null]), .items [.type (.one .string)], .maxItems 3]),
        ("site", [.type (.one .string)])]
    let document : Document :=
      [.type (.oneOf [.object, .null]), .closed, .properties properties,
        .required ["Size", "site"]]
    catalogue.ResolvesSound ∧ node.Sound True ∧
      (node.compile catalogue).outcome {} = .ok document ∧
        ∃ root : Entries, document.valueWithEdition = .map .plain root ∧
          ∀ way inner, root.at? way = some inner →
            ∃ shape, catalogue.Reaches node way shape ∧
              inner.WellFormed shape (Document.opening true way) := by
  intro c catalogue fields node properties document
  have resolves : catalogue.ResolvesSound := fun _ _ _ _ => .pure trivial
  have referred : (Descriptor.ref (.provider c 0) []).Sound True :=
    ⟨⟨rfl, by simp⟩, trivial, trivial⟩
  have sound : node.Sound True := ⟨by decide, by decide, nofun, referred, referred, trivial⟩
  have required : Descriptor.requiredKeys fields = ["Size", "site"] :=
    List.mergeSort_of_pairwise (by decide)
  have listed : document = mappingDocument fields true properties := by
    rw [mappingDocument, required]
    rfl
  have compiled : (node.compile catalogue).outcome {} = .ok document := by
    rw [listed]
    rfl
  exact ⟨resolves, sound, compiled, compiled_wellFormed resolves sound compiled true⟩

end RecordSchema
