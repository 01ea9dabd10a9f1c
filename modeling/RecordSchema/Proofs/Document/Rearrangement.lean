import Mathlib.Data.List.Perm.Basic
import RecordSchema.Proofs.Descriptor.Congruence
import RecordSchema.Proofs.Descriptor.Reordering
import RecordSchema.Proofs.Document.Meaning
import RecordSchema.Proofs.Document.Shape

namespace RecordSchema

/-! Documents that differ in the order of properties, as those of reordered nodes do.  They
are equal as mappings, and list the same required keys at every place. -/

mutual
/-- The other clause has the properties of the clause, at any depth, in any order.  No key
and no keyword is repeated. -/
def Clause.Rearranges : Clause → Clause → Prop
  | .properties properties, other =>
      ∃ inside others, (properties.map Prod.fst).Nodup ∧
        propertiesRearrange properties inside ∧ inside.Perm others ∧ other = .properties others
  | .items clauses, other =>
      ∃ inside, (clauses.map Clause.keyword).Nodup ∧ clausesRearrange clauses inside ∧
        other = .items inside
  | clause, other => other = clause
termination_by structural clause => clause

def clausesRearrange : List Clause → List Clause → Prop
  | [], others => others = []
  | clause :: clauses, others =>
      ∃ inside tail, clause.Rearranges inside ∧ clausesRearrange clauses tail ∧
        others = inside :: tail
termination_by structural clauses => clauses

/-- The other properties stand in the same order, with documents that are rearranged. -/
def propertiesRearrange :
    List (String × List Clause) → List (String × List Clause) → Prop
  | [], others => others = []
  | (key, clauses) :: rest, others =>
      ∃ inside tail, (clauses.map Clause.keyword).Nodup ∧ clausesRearrange clauses inside ∧
        propertiesRearrange rest tail ∧ others = (key, inside) :: tail
termination_by structural properties => properties
end

/-- The other document is the document with its properties, at any depth, in any order. -/
def Document.Rearranges (document other : Document) : Prop :=
  (document.map Clause.keyword).Nodup ∧ clausesRearrange document other

theorem clausesRearrange_of_lists {names : List String} {document : Document}
    (lists : document.Lists names) (leaf : "properties" ∉ names ∧ "items" ∉ names) :
    clausesRearrange document document := by
  have plain : ∀ clause ∈ document, clause.Rearranges clause := by
    intro clause among
    have listed : clause.keyword ∈ names := lists.subset (List.mem_map_of_mem among)
    cases clause with
    | properties properties => exact absurd listed leaf.1
    | items clauses => exact absurd listed leaf.2
    | _ => rfl
  clear lists
  induction document with
  | nil => rfl
  | cons clause rest induction =>
      obtain ⟨head, tail⟩ := List.forall_mem_cons.mp plain
      exact ⟨clause, rest, head, induction tail, rfl⟩

/-! ### Documents of reordered nodes -/

theorem fieldsDescribedBy_iff {refs : Value → Entries → Document → Prop} {fields : List Field}
    {properties : List (String × Document)} :
    fieldsDescribedBy refs fields properties ↔
      List.Forall₂ (fun field property => property.1 = field.wireKey ∧
        field.descriptor.DescribedBy refs property.2) fields properties := by
  induction fields generalizing properties with
  | nil => simp [fieldsDescribedBy]
  | cons field rest induction =>
      obtain ⟨name, descriptor, optional, key⟩ := field
      rw [List.forall₂_cons_left_iff]
      constructor
      · rintro ⟨document, others, head, tail, rfl⟩
        exact ⟨_, others, ⟨rfl, head⟩, induction.mp tail, rfl⟩
      · rintro ⟨⟨named, document⟩, others, ⟨rfl, head⟩, tail, rfl⟩
        exact ⟨document, others, head, induction.mpr tail, rfl⟩

theorem fieldsDescribedBy_of_perm {refs : Value → Entries → Document → Prop}
    {fields others : List Field}
    {properties : List (String × Document)} (order : fields.Perm others)
    (described : fieldsDescribedBy refs fields properties) :
    ∃ further, fieldsDescribedBy refs others further ∧ properties.Perm further := by
  obtain ⟨further, parts, same⟩ :=
    List.perm_comp_forall₂ order.symm (fieldsDescribedBy_iff.mp described)
  exact ⟨further, fieldsDescribedBy_iff.mpr parts, same.symm⟩

/-- References have no documents. -/
abbrev unreferred (_ : Value) (_ : Entries) (_ : Document) : Prop := False

mutual
/-- A reordered node has the same document but for the order of properties. -/
theorem Descriptor.Reorders.described :
    (node : Descriptor) → {other : Descriptor} → {document : Document} →
      node.Reorders other → node.Checked → node.DescribedBy unreferred document →
        ∃ further, other.DescribedBy unreferred further ∧ document.Rearranges further
  | .primitive options, other, document, reorders, _, described => by
      cases reorders
      cases described
      have lists := Document.lists_primitive options
      exact ⟨options.document, rfl, lists.nodup (by decide),
        clausesRearrange_of_lists lists (by decide)⟩
  | .mapping fields nullable, other, document, reorders, checked, described => by
      obtain ⟨inside, others, parts, order, rfl⟩ := reorders
      obtain ⟨properties, below, rfl⟩ := described
      obtain ⟨middle, listed, rearranged⟩ :=
        fields_described_of_reorder fields parts checked.2.2 below
      obtain ⟨final, final_listed, same⟩ := fieldsDescribedBy_of_perm order listed
      have distinct : (properties.map Prod.fst).Nodup := by
        rw [map_fst_of_fieldsDescribedBy fields below]
        exact checked.2.1
      refine ⟨mappingDocument others nullable final, ⟨final, final_listed, rfl⟩,
        (Document.lists_mapping fields nullable properties).nodup (by decide), ?_⟩
      unfold mappingDocument
      rw [requiredKeys_of_reordered parts order]
      refine ⟨_, _, rfl, ⟨_, _, rfl, ⟨_, _, ⟨middle, final, distinct, rearranged, same, rfl⟩,
        ?_, rfl⟩, rfl⟩, rfl⟩
      split
      · rfl
      · exact ⟨_, _, rfl, rfl, rfl⟩
  | .array element options, other, document, reorders, checked, described => by
      obtain ⟨inside, below, rfl⟩ := reorders
      obtain ⟨items, part, rfl⟩ := described
      obtain ⟨further, listed, distinct, rearranged⟩ := below.described element checked part
      have bounds := clausesRearrange_of_lists (Document.lists_bounds options) (by decide)
      exact ⟨_, ⟨further, listed, rfl⟩, (Document.lists_array _ items options).nodup (by decide),
        _, _, rfl, ⟨_, _, ⟨further, distinct, rearranged, rfl⟩, bounds, rfl⟩, rfl⟩
  | .ref _ _, _, _, _, _, described | .foreign _, _, _, _, _, described => described.elim
termination_by structural node => node

theorem fields_described_of_reorder :
    (fields : List Field) → {inside : List Field} → {properties : List (String × Document)} →
      fieldsReorder fields inside → fieldsChecked fields →
        fieldsDescribedBy unreferred fields properties →
          ∃ further, fieldsDescribedBy unreferred inside further ∧
            propertiesRearrange properties further
  | [], _, _, parts, _, described => by
      cases parts
      cases described
      exact ⟨[], rfl, rfl⟩
  | ⟨name, descriptor, optional, key⟩ :: rest, _, _, parts, checked, described => by
      obtain ⟨node, tail, below, parts, rfl⟩ := parts
      obtain ⟨document, others, head, described, rfl⟩ := described
      obtain ⟨first, listed, distinct, rearranged⟩ :=
        below.described descriptor checked.1 head
      obtain ⟨further, follows, rest_rearranged⟩ :=
        fields_described_of_reorder rest parts checked.2 described
      exact ⟨_, ⟨first, further, listed, follows, rfl⟩, first, further, distinct, rearranged,
        rest_rearranged, rfl⟩
termination_by structural fields => fields
end

mutual
/-- A node without references has no other document, and compiles to it. -/
theorem Descriptor.compileWith_of_describedBy (expand : Value → Entries → Action Document) :
    (node : Descriptor) → {document : Document} → node.DescribedBy unreferred document →
      node.compileWith expand = pure document
  | .primitive _, _, described => by
      cases described
      rfl
  | .mapping fields nullable, _, described => by
      obtain ⟨properties, parts, rfl⟩ := described
      rw [Descriptor.compileWith, compileFieldsWith_of_describedBy expand fields parts, pure_bind]
  | .array element options, _, described => by
      obtain ⟨items, part, rfl⟩ := described
      rw [Descriptor.compileWith, element.compileWith_of_describedBy expand part, pure_bind]
  | .ref _ _, _, described | .foreign _, _, described => described.elim
termination_by structural node => node

theorem compileFieldsWith_of_describedBy (expand : Value → Entries → Action Document) :
    (fields : List Field) → {properties : List (String × Document)} →
      fieldsDescribedBy unreferred fields properties →
        compileFieldsWith expand fields = pure properties
  | [], _, described => by
      cases described
      rfl
  | ⟨_, descriptor, _, _⟩ :: rest, _, described => by
      obtain ⟨document, others, head, tail, rfl⟩ := described
      rw [compileFieldsWith, descriptor.compileWith_of_describedBy expand head, pure_bind,
        compileFieldsWith_of_describedBy expand rest tail, pure_bind]
termination_by structural fields => fields
end

/-! ### Equality as mappings -/

theorem Clause.Rearranges.keyword {clause other : Clause} (same : clause.Rearranges other) :
    other.keyword = clause.keyword := by
  cases clause with
  | properties properties =>
      obtain ⟨inside, others, _, _, _, rfl⟩ := same
      rfl
  | items clauses =>
      obtain ⟨inside, _, _, rfl⟩ := same
      rfl
  | _ =>
      cases same
      rfl

theorem map_keyword_of_rearrange {document other : Document}
    (same : clausesRearrange document other) :
    other.map Clause.keyword = document.map Clause.keyword := by
  induction document generalizing other with
  | nil =>
      cases same
      rfl
  | cons clause rest induction =>
      obtain ⟨inside, tail, head, parts, rfl⟩ := same
      rw [List.map_cons, List.map_cons, head.keyword, induction parts]

theorem map_key_of_rearrange {properties others : List (String × Document)}
    (same : propertiesRearrange properties others) :
    others.map Prod.fst = properties.map Prod.fst := by
  induction properties generalizing others with
  | nil =>
      cases same
      rfl
  | cons property rest induction =>
      obtain ⟨key, document⟩ := property
      obtain ⟨inside, tail, _, _, parts, rfl⟩ := same
      rw [List.map_cons, List.map_cons, induction parts]

theorem propertyEntries_eq_map (properties : List (String × Document)) :
    propertyEntries properties =
      properties.map (fun property => (.text property.1, property.2.value)) := by
  induction properties with
  | nil => rfl
  | cons property rest induction =>
      rw [propertyEntries, induction]
      rfl

/-- Mappings are equal if the keys, which are texts, are as many and differ, and every entry
of the first has its like in the second. -/
theorem eqv_map_of_names {entries others : Entries} {names further : List String}
    (here : entries.map Prod.fst = names.map .text)
    (there : others.map Prod.fst = further.map .text) (distinct : further.Nodup)
    (lengths : names.length = further.length)
    (partners : ∀ entry ∈ entries, ∃ other ∈ others, sameEntry false entry other = true) :
    (Value.map .plain entries).eqv (.map .plain others) = true := by
  have counted : entries.length = others.length := by
    rw [← List.length_map (f := Prod.fst), here, List.length_map, lengths,
      ← List.length_map (f := Value.text), ← there, List.length_map]
  have keyed {pairs : Entries} {listed : List String}
      (given : pairs.map Prod.fst = listed.map .text) (entry : Value × Value)
      (among : entry ∈ pairs) : ∃ name, entry.1 = .text name := by
    have listed : entry.1 ∈ pairs.map Prod.fst := List.mem_map_of_mem among
    rw [given] at listed
    obtain ⟨name, _, same⟩ := List.mem_map.mp listed
    exact ⟨name, same.symm⟩
  have differ : others.KeysDiffer := by
    have keys : (others.map Prod.fst).Nodup := by
      rw [there]
      exact distinct.map (fun _ _ => Value.text.inj)
    refine (List.pairwise_map.mp keys).imp_of_mem ?_
    intro a b first second unequal
    obtain ⟨name, key⟩ := keyed there b second
    rw [key] at unequal ⊢
    simpa [Bool.eq_false_iff] using unequal
  have discerns : ∀ entry ∈ entries, others.Discerns entry.1 := by
    intro entry among a first b second left right
    obtain ⟨name, key⟩ := keyed here entry among
    rw [key, Value.eqv_text_left] at left right
    rw [left, right, Value.eqv_text_left]
  exact Bool.and_eq_true_iff.mpr
    ⟨decide_eq_true counted, (entriesWithin_iff differ discerns).mpr partners⟩

/-- What a clause that has no documents below it says is equal to itself. -/
theorem Clause.eqv_self_of_plain {clause : Clause}
    (listed : ∀ properties, clause ≠ .properties properties)
    (inner : ∀ clauses, clause ≠ .items clauses) : clause.entry.2.eqv clause.entry.2 = true := by
  have regular : clause.entry.2.Regular := by
    cases clause with
    | properties properties => exact absurd rfl (listed properties)
    | items clauses => exact absurd rfl (inner clauses)
    | type types =>
        cases types with
        | one type => trivial
        | oneOf types =>
            refine itemsRegular_iff.mpr (fun item among => ?_)
            obtain ⟨type, _, rfl⟩ := List.mem_map.mp among
            trivial
    | enum members =>
        refine itemsRegular_iff.mpr (fun item among => ?_)
        cases members with
        | integers members =>
            obtain ⟨member, _, rfl⟩ := List.mem_map.mp among
            trivial
        | texts members =>
            obtain ⟨member, _, rfl⟩ := List.mem_map.mp among
            trivial
    | required keys =>
        refine itemsRegular_iff.mpr (fun item among => ?_)
        obtain ⟨key, _, rfl⟩ := List.mem_map.mp among
        trivial
    | _ => trivial
  exact (clause.entry.2.congruent regular false).self

theorem Document.eqv_of_partners {document other : Document}
    (distinct : (document.map Clause.keyword).Nodup) (same : clausesRearrange document other)
    (partners : ∀ entry ∈ clauseEntries document, ∃ further ∈ clauseEntries other,
      sameEntry false entry further = true) : document.value.eqv other.value = true := by
  rw [← map_keyword_of_rearrange same] at distinct
  refine eqv_map_of_names (Document.map_fst_clauseEntries document)
    (Document.map_fst_clauseEntries other) distinct ?_ partners
  rw [map_keyword_of_rearrange same]

mutual
theorem Clause.Rearranges.eqv :
    (clause : Clause) → {other : Clause} → clause.Rearranges other →
      clause.entry.2.eqv other.entry.2 = true
  | .properties properties, other, same => by
      obtain ⟨inside, others, distinct, parts, order, rfl⟩ := same
      have keys : (inside.map Prod.fst).Nodup := by
        rw [map_key_of_rearrange parts]
        exact distinct
      refine eqv_map_of_names (Document.map_fst_propertyEntries properties)
        (Document.map_fst_propertyEntries others) ((order.map Prod.fst).nodup_iff.mp keys) ?_ ?_
      · rw [← map_key_of_rearrange parts, (order.map Prod.fst).length_eq]
      · intro entry among
        obtain ⟨further, member, equal⟩ := propertiesRearrange_partners properties parts entry among
        rw [propertyEntries_eq_map] at member ⊢
        exact ⟨further, (order.map _).mem_iff.mp member, equal⟩
  | .items clauses, other, same => by
      obtain ⟨inside, distinct, parts, rfl⟩ := same
      exact Document.eqv_of_partners distinct parts (clausesRearrange_partners clauses parts)
  | .type _, _, same | .minimum _, _, same | .maximum _, _, same | .minLength _, _, same
  | .maxLength _, _, same | .minItems _, _, same | .maxItems _, _, same | .enum _, _, same
  | .format _, _, same | .closed, _, same | .required _, _, same => by
      cases same
      exact Clause.eqv_self_of_plain (by simp) (by simp)
termination_by structural clause => clause

theorem clausesRearrange_partners :
    (document : List Clause) → {other : Document} → clausesRearrange document other →
      ∀ entry ∈ clauseEntries document, ∃ further ∈ clauseEntries other,
        sameEntry false entry further = true
  | [], _, _ => List.forall_mem_nil _
  | clause :: rest, _, ⟨inside, tail, head, parts, rfl⟩ => by
      refine List.forall_mem_cons.mpr ⟨⟨inside.entry, .head _, ?_⟩, fun entry among => ?_⟩
      · refine Bool.and_eq_true_iff.mpr ⟨?_, head.eqv clause⟩
        rw [clause.fst_entry, inside.fst_entry, head.keyword, Value.eqv_text_left]
      · obtain ⟨further, member, equal⟩ := clausesRearrange_partners rest parts entry among
        exact ⟨further, .tail _ member, equal⟩
termination_by structural document => document

theorem propertiesRearrange_partners :
    (properties : List (String × List Clause)) → {others : List (String × Document)} →
      propertiesRearrange properties others →
      ∀ entry ∈ propertyEntries properties, ∃ further ∈ propertyEntries others,
        sameEntry false entry further = true
  | [], _, _ => List.forall_mem_nil _
  | (key, clauses) :: rest, _, ⟨inside, tail, distinct, head, parts, rfl⟩ => by
      refine List.forall_mem_cons.mpr ⟨⟨(.text key, Document.value inside), .head _, ?_⟩,
        fun entry among => ?_⟩
      · refine Bool.and_eq_true_iff.mpr ⟨(Value.eqv_text_left key _).mpr rfl, ?_⟩
        exact Document.eqv_of_partners distinct head (clausesRearrange_partners clauses head)
      · obtain ⟨further, member, equal⟩ := propertiesRearrange_partners rest parts entry among
        exact ⟨further, .tail _ member, equal⟩
termination_by structural properties => properties
end

namespace Document

variable {document other : Document}

theorem Rearranges.eqv (same : document.Rearranges other) (draft : Bool) :
    (if draft then document.valueWithEdition else document.value).eqv
      (if draft then other.valueWithEdition else other.value) = true := by
  have keys := map_keyword_of_rearrange same.2
  have distinct := same.1
  rw [← keys] at distinct
  have partners := clausesRearrange_partners document same.2
  cases draft with
  | false => exact eqv_of_partners same.1 same.2 partners
  | true =>
      refine @eqv_map_of_names _ _ ("$schema" :: document.map Clause.keyword)
        ("$schema" :: other.map Clause.keyword) ?_ ?_ ?_ ?_ ?_
      · rw [List.map_cons, List.map_cons, map_fst_clauseEntries]
      · rw [List.map_cons, List.map_cons, map_fst_clauseEntries]
      · refine List.nodup_cons.mpr ⟨fun among => ?_, distinct⟩
        obtain ⟨clause, _, named⟩ := List.mem_map.mp among
        cases clause <;> simp [Clause.keyword] at named
      · rw [keys]
      · refine List.forall_mem_cons.mpr ⟨⟨_, .head _, ?_⟩, fun entry among => ?_⟩
        · exact Bool.and_eq_true_iff.mpr
            ⟨(Value.eqv_text_left _ _).mpr rfl, (Value.eqv_text_left _ _).mpr rfl⟩
        · obtain ⟨further, member, equal⟩ := partners entry among
          exact ⟨further, .tail _ member, equal⟩

end Document

/-! ### The same required keys -/

theorem get?_of_clausesRearrange {document other : Document}
    (same : clausesRearrange document other) (name : String) :
    Entries.get? (clauseEntries document) name = none ∧
        Entries.get? (clauseEntries other) name = none ∨
      ∃ clause inside : Clause, clause.keyword = name ∧ clause.Rearranges inside ∧
        Entries.get? (clauseEntries document) name = some clause.entry.2 ∧
        Entries.get? (clauseEntries other) name = some inside.entry.2 := by
  induction document generalizing other with
  | nil =>
      cases same
      exact .inl ⟨rfl, rfl⟩
  | cons clause rest induction =>
      obtain ⟨inside, tail, head, parts, rfl⟩ := same
      have here (clause : Clause) : clause.entry = (.text clause.keyword, clause.entry.2) :=
        Prod.ext clause.fst_entry rfl
      rw [clauseEntries, clauseEntries, here clause, here inside, head.keyword]
      by_cases named : clause.keyword = name
      · rw [named, Entries.get?_cons_self, Entries.get?_cons_self]
        exact .inr ⟨clause, inside, named, head, rfl, rfl⟩
      · have differs : Value.text clause.keyword ≠ .text name := by simpa using named
        rw [Entries.get?_cons_of_ne differs, Entries.get?_cons_of_ne differs]
        exact induction parts

theorem get?_of_propertiesRearrange {properties others : List (String × Document)}
    (same : propertiesRearrange properties others) (key : String) :
    Entries.get? (propertyEntries properties) key = none ∧
        Entries.get? (propertyEntries others) key = none ∨
      ∃ document other : Document, document.Rearranges other ∧
        Entries.get? (propertyEntries properties) key = some document.value ∧
        Entries.get? (propertyEntries others) key = some other.value := by
  induction properties generalizing others with
  | nil =>
      cases same
      exact .inl ⟨rfl, rfl⟩
  | cons property rest induction =>
      obtain ⟨name, document⟩ := property
      obtain ⟨inside, tail, distinct, head, parts, rfl⟩ := same
      rw [propertyEntries, propertyEntries]
      by_cases named : name = key
      · subst named
        rw [Entries.get?_cons_self, Entries.get?_cons_self]
        exact .inr ⟨document, inside, ⟨distinct, head⟩, rfl, rfl⟩
      · have differs : Value.text name ≠ .text key := by simpa using named
        rw [Entries.get?_cons_of_ne differs, Entries.get?_cons_of_ne differs]
        exact induction parts

theorem get?_propertyEntries_of_perm {properties others : List (String × Document)}
    (order : properties.Perm others) (distinct : (properties.map Prod.fst).Nodup) (key : String) :
    Entries.get? (propertyEntries properties) key = Entries.get? (propertyEntries others) key := by
  unfold Entries.get? Entries.find?
  rw [propertyEntries_eq_map, propertyEntries_eq_map]
  refine congrArg (Option.map Prod.snd) (find?_of_perm (order.map _) (List.pairwise_map.mpr ?_))
  refine (List.pairwise_map.mp distinct).imp (fun unequal first second => unequal ?_)
  rw [Value.eqv_text_left] at first second
  exact Value.text.inj (first.trans second.symm)

namespace Document

variable {document other : Document}

/-- A step leads nowhere in both documents, or to documents of which one rearranges the
other. -/
theorem Rearranges.child? (same : document.Rearranges other) (step : Step) :
    Entries.child? (clauseEntries document) step = none ∧
        Entries.child? (clauseEntries other) step = none ∨
      ∃ below inside : Document, below.Rearranges inside ∧
        Entries.child? (clauseEntries document) step = some (clauseEntries below) ∧
        Entries.child? (clauseEntries other) step = some (clauseEntries inside) := by
  cases step with
  | property key =>
      simp only [Entries.child?]
      rcases get?_of_clausesRearrange same.2 "properties" with
        ⟨here, there⟩ | ⟨clause, inside, named, head, here, there⟩
      · rw [here, there]
        exact .inl ⟨rfl, rfl⟩
      · rw [here, there]
        cases clause with
        | properties properties =>
            obtain ⟨middle, others, distinct, parts, order, rfl⟩ := head
            rw [← map_key_of_rearrange parts] at distinct
            simp only [Clause.entry, Value.entries?, Option.bind_some]
            rw [← get?_propertyEntries_of_perm order distinct]
            rcases get?_of_propertiesRearrange parts key with
              ⟨here, there⟩ | ⟨below, further, inner, here, there⟩
            · rw [here, there]
              exact .inl ⟨rfl, rfl⟩
            · rw [here, there]
              exact .inr ⟨below, further, inner, rfl, rfl⟩
        | _ => simp [Clause.keyword] at named
  | items =>
      simp only [Entries.child?]
      rcases get?_of_clausesRearrange same.2 "items" with
        ⟨here, there⟩ | ⟨clause, inside, named, head, here, there⟩
      · rw [here, there]
        exact .inl ⟨rfl, rfl⟩
      · rw [here, there]
        cases clause with
        | items clauses =>
            obtain ⟨below, distinct, parts, rfl⟩ := head
            exact .inr ⟨clauses, below, ⟨distinct, parts⟩, rfl, rfl⟩
        | _ => simp [Clause.keyword] at named

theorem Rearranges.required (same : document.Rearranges other) (way : List Step) :
    (Entries.at? (clauseEntries document) way).map (fun inner => inner.get? "required") =
      (Entries.at? (clauseEntries other) way).map (fun inner => inner.get? "required") := by
  induction way generalizing document other with
  | nil =>
      refine congrArg some ?_
      dsimp only
      rcases get?_of_clausesRearrange same.2 "required" with
        ⟨here, there⟩ | ⟨clause, inside, named, head, here, there⟩
      · rw [here, there]
      · rw [here, there]
        cases clause with
        | required keys =>
            cases head
            rfl
        | _ => simp [Clause.keyword] at named
  | cons step way induction =>
      rw [Entries.at?, Entries.at?]
      rcases same.child? step with ⟨here, there⟩ | ⟨below, inside, inner, here, there⟩
      · rw [here, there]
      · rw [here, there]
        exact induction inner

end Document

end RecordSchema
