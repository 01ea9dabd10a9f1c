import RecordSchema.Proofs.Document.Conduct
import RecordSchema.Proofs.Document.Nodes

namespace RecordSchema

/-! Which documents describe a node.  Compilation gives no others, and what a document of a
node accepts is what the node admits. -/

mutual
/-- The document of a node, given what `refs` allows for its references. -/
def Descriptor.DescribedBy (refs : Value → Entries → Document → Prop) :
    Descriptor → Document → Prop
  | .primitive options, document => document = options.document
  | .mapping fields nullable, document =>
      ∃ properties, fieldsDescribedBy refs fields properties ∧
        document = mappingDocument fields nullable properties
  | .array element options, document =>
      ∃ items, element.DescribedBy refs items ∧
        document =
          .type (TypeName.array.orNull options.nullable) :: .items items :: options.clauses
  | .ref provider options, document => refs provider options document
  | .foreign _, _ => False
termination_by structural node => node

def fieldsDescribedBy (refs : Value → Entries → Document → Prop) :
    List Field → List (String × Document) → Prop
  | [], properties => properties = []
  | ⟨name, descriptor, _, key⟩ :: rest, properties =>
      ∃ document others, descriptor.DescribedBy refs document ∧
        fieldsDescribedBy refs rest others ∧ properties = (key.getD name, document) :: others
termination_by structural fields => fields
end

variable {refs : Value → Entries → Document → Prop}

mutual
theorem Descriptor.compileWith_describes {holds : Session → Prop}
    {expand : Value → Entries → Action Document}
    (expands : ∀ provider options,
      (expand provider options).Yields holds (refs provider options)) :
    (node : Descriptor) → (node.compileWith expand).Yields holds (node.DescribedBy refs)
  | .primitive _ => .pure rfl
  | .mapping fields _ =>
      .bind (compileFieldsWith_describes expands fields)
        (fun properties described => .pure ⟨properties, described, rfl⟩)
  | .array element _ =>
      .bind (element.compileWith_describes expands)
        (fun items described => .pure ⟨items, described, rfl⟩)
  | .ref provider options => expands provider options
  | .foreign _ => .fail _ _
termination_by structural node => node

theorem compileFieldsWith_describes {holds : Session → Prop}
    {expand : Value → Entries → Action Document}
    (expands : ∀ provider options,
      (expand provider options).Yields holds (refs provider options)) :
    (fields : List Field) →
      (compileFieldsWith expand fields).Yields holds (fieldsDescribedBy refs fields)
  | [] => .pure rfl
  | ⟨_, descriptor, _, _⟩ :: rest =>
      .bind (descriptor.compileWith_describes expands) (fun document described =>
        .bind (compileFieldsWith_describes expands rest) (fun others tail =>
          .pure ⟨document, others, described, tail, rfl⟩))
termination_by structural fields => fields
end

theorem Descriptor.describedBy_of_compile {catalogue : Catalogue} {node : Descriptor}
    {session : Session} {document : Document}
    (compiled : (node.compile catalogue).outcome session = .ok document) :
    node.DescribedBy (fun _ _ _ => True) document := by
  unfold compile expansionLimit compileWithin at compiled
  exact (node.compileWith_describes (fun _ _ => .anything _)).gives session document trivial
    compiled

/-! ### Documents and meaning -/

theorem map_fst_of_fieldsDescribedBy (fields : List Field)
    {properties : List (String × Document)} (described : fieldsDescribedBy refs fields properties) :
    properties.map Prod.fst = fields.map Field.wireKey := by
  induction fields generalizing properties with
  | nil =>
      cases described
      rfl
  | cons field rest induction =>
      obtain ⟨name, descriptor, optional, key⟩ := field
      obtain ⟨document, others, _, tail, rfl⟩ := described
      simp [induction tail, Field.wireKey]

theorem declared_iff {fields : List Field} {properties : List (String × Document)}
    (described : fieldsDescribedBy refs fields properties) {key : Value} :
    (∃ name ∈ properties.map Prod.fst, key = .text name) ↔
      ∃ field ∈ fields, key = .text field.wireKey := by
  rw [map_fst_of_fieldsDescribedBy fields described]
  simp

variable {ok : Value → Entries → Value → Prop}

mutual
/-- What the document accepts is admitted, if that is so for references. -/
theorem Descriptor.admits_of_accepts
    (sound : ∀ provider options document item, refs provider options document →
      document.Accepts item → ok provider options item) :
    (node : Descriptor) → {document : Document} → {value : Value} →
      node.DescribedBy refs document → document.Accepts value → node.Admits ok value
  | .primitive options, document, value, described, accepted => by
      cases described
      exact (options.document_accepts value).mp accepted
  | .mapping fields nullable, document, value, described, accepted => by
      obtain ⟨properties, parts, rfl⟩ := described
      rcases mappingDocument_accepts.mp accepted with
        null | ⟨entries, dict, closed, present, inside⟩
      · exact .inl null
      · refine .inr ⟨entries, dict, ?_, present, ?_⟩
        · intro entry member
          exact (declared_iff parts).mp (closed entry member)
        · exact fieldsAdmit_of_accepts sound fields parts inside
  | .array element options, document, value, described, accepted => by
      obtain ⟨items, part, rfl⟩ := described
      rcases arrayDocument_accepts.mp accepted with null | ⟨list, rfl, allowed, inside⟩
      · exact .inl null
      · refine .inr ⟨list, rfl, allowed, ?_⟩
        intro item member
        exact element.admits_of_accepts sound part (inside item member)
  | .ref provider options, document, value, described, accepted =>
      sound provider options document value described accepted
  | .foreign _, _, _, described, _ => described.elim
termination_by structural node => node

theorem fieldsAdmit_of_accepts
    (sound : ∀ provider options document item, refs provider options document →
      document.Accepts item → ok provider options item) {entries : Entries} :
    (fields : List Field) → {properties : List (String × Document)} →
      fieldsDescribedBy refs fields properties →
        (∀ property ∈ properties, ∀ item, entries.get? property.1 = some item →
          property.2.Accepts item) →
        fieldsAdmit ok fields entries
  | [], _, _, _ => trivial
  | ⟨name, descriptor, optional, key⟩ :: rest, properties, described, inside => by
      obtain ⟨document, others, head, tail, rfl⟩ := described
      rw [List.forall_mem_cons] at inside
      refine ⟨fun item found => ?_, fieldsAdmit_of_accepts sound rest tail inside.2⟩
      exact descriptor.admits_of_accepts sound head (inside.1 item found)
termination_by structural fields => fields
end

mutual
/-- What is admitted the document accepts, if that is so for references. -/
theorem Descriptor.accepts_of_admits
    (complete : ∀ provider options document item, refs provider options document →
      ok provider options item → document.Accepts item) :
    (node : Descriptor) → {document : Document} → {value : Value} →
      node.DescribedBy refs document → node.Admits ok value → document.Accepts value
  | .primitive options, document, value, described, admitted => by
      cases described
      exact (options.document_accepts value).mpr admitted
  | .mapping fields nullable, document, value, described, admitted => by
      obtain ⟨properties, parts, rfl⟩ := described
      apply mappingDocument_accepts.mpr
      rcases admitted with null | ⟨entries, dict, closed, present, inside⟩
      · exact .inl null
      · refine .inr ⟨entries, dict, ?_, present, ?_⟩
        · intro entry member
          exact (declared_iff parts).mpr (closed entry member)
        · exact properties_accept_of_fieldsAdmit complete fields parts inside
  | .array element options, document, value, described, admitted => by
      obtain ⟨items, part, rfl⟩ := described
      apply arrayDocument_accepts.mpr
      rcases admitted with null | ⟨list, rfl, allowed, inside⟩
      · exact .inl null
      · refine .inr ⟨list, rfl, allowed, ?_⟩
        intro item member
        exact element.accepts_of_admits complete part (inside item member)
  | .ref provider options, document, value, described, admitted =>
      complete provider options document value described admitted
  | .foreign _, _, _, described, _ => described.elim
termination_by structural node => node

theorem properties_accept_of_fieldsAdmit
    (complete : ∀ provider options document item, refs provider options document →
      ok provider options item → document.Accepts item) {entries : Entries} :
    (fields : List Field) → {properties : List (String × Document)} →
      fieldsDescribedBy refs fields properties → fieldsAdmit ok fields entries →
        ∀ property ∈ properties, ∀ item, entries.get? property.1 = some item →
          property.2.Accepts item
  | [], properties, described, _ => by
      cases described
      simp
  | ⟨name, descriptor, optional, key⟩ :: rest, properties, described, inside => by
      obtain ⟨document, others, head, tail, rfl⟩ := described
      rw [List.forall_mem_cons]
      refine ⟨fun item found => ?_,
        properties_accept_of_fieldsAdmit complete rest tail inside.2⟩
      exact descriptor.accepts_of_admits complete head (inside.1 item found)
termination_by structural fields => fields
end

end RecordSchema
