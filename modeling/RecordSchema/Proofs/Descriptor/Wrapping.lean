import RecordSchema.Proofs.Descriptor.Construction
import RecordSchema.Proofs.Provider.Portability
import RecordSchema.Proofs.Session.Abreast
import RecordSchema.Provider.Delegation

namespace RecordSchema

/-! Descriptions in which a part is delegated: a provider stands for the part and is given it as
an option. -/

namespace Shorthand

/-- How the provider is given, and what it is then taken for: a class, an object of the class, or
a name that the registry has for such an object. -/
inductive Delegates (c : ProviderClass) (registry : Registry) : Value → Value → Prop where
  | shared : Delegates c registry (.providerClass c) (.providerClass c)
  | object (id : Nat) : Delegates c registry (.provider c id) (.provider c id)
  | named {name : String} {id : Nat} (free : Kind.ofName? name = none)
      (registered : registry.get? name = some (.provider c id)) :
      Delegates c registry (.text name) (.provider c id)

def delegated (how spec : Value) (rest : Entries) : Value :=
  .map .plain ((.text typeKey, how) :: (.text Behaviour.delegatedOption, spec) :: rest)

/-- What is said of a field where it differs from what goes without saying. -/
def fieldLayer (optional : Bool) (key : Option String) : Entries :=
  (if optional then [(.text "optional", .bool true)] else []) ++
    (match key with
      | some key => [(.text "key", .text key)]
      | none => [])

/-- With the options laid over it, the description refers to an object of the class, and these are
all the options that are given to it. -/
inductive Refers (c : ProviderClass) (registry : Registry) :
    Value → Entries → Value → Entries → Prop where
  | here {how candidate : Value} {options : Entries}
      (delegates : Delegates c registry how candidate) :
      Refers c registry how options candidate options
  | pair {inner candidate : Value} {kind : MapKind} {layer options all : Entries}
      (refers : Refers c registry inner (Entries.merge layer options) candidate all) :
      Refers c registry (.tuple [inner, .map kind layer]) options candidate all
  | typed {how candidate : Value} {kind : MapKind} {entries options all : Entries}
      (given : Entries.get? entries typeKey = some how)
      (lists : Entries.hidden kind entries = false)
      (refers : Refers c registry how (Entries.merge (Entries.erase entries typeKey) options)
        candidate all) :
      Refers c registry (.map kind entries) options candidate all

/-- Where a description stands: at a field, or where nothing that it says of a field matters. -/
inductive Place where
  | field
  | free

/-- With the options laid over both, the second description is the first one with a part of it
delegated, at any depth. -/
inductive Wraps (d : Delegate) (start : Session) : Place → Entries → Value → Value → Prop where
  | here {place : Place} {spec candidate : Value} {parsed : Parsed} {optional : Bool}
      {key : Option String} (made : spec.Frugal start.Made) (portable : spec.Portable)
      (accepted : (parse start.registry spec []).outcome start = .ok parsed)
      (delegates : Delegates d.provider start.registry d.how candidate)
      (kept : place = .field → optional = parsed.optional ∧ key = parsed.key) :
      Wraps d start place [] spec (delegated d.how spec (fieldLayer optional key))
  | inside {place : Place} {options before after : Entries}
      {description other candidate given wrapped : Value}
      (refers : Refers d.provider start.registry description options candidate
        (before ++ (.text Behaviour.delegatedOption, given) :: after))
      (also : Refers d.provider start.registry other options candidate
        (before ++ (.text Behaviour.delegatedOption, wrapped) :: after))
      (first : before.get? Behaviour.delegatedOption = none)
      (portable : given.Portable ∧ wrapped.Portable)
      (tolerated : Entries.Hold (start.Tolerates d) (before ++ after))
      (wraps : Wraps d start .free [] given wrapped) :
      Wraps d start place options description other
  | element {place : Place} {options : Entries} {given wrapped : Value}
      (wraps : Wraps d start .free [] given wrapped) :
      Wraps d start place options (.list [given]) (.list [wrapped])
  | field {place : Place} {options : Entries} {given wrapped : Value} {kind : MapKind}
      {name : String} {before after : Entries}
      (untyped : Entries.contains (before ++ (.text name, given) :: after) typeKey = false)
      (tolerated : Entries.Hold (start.Tolerates d) (before ++ after))
      (wraps : Wraps d start .field [] given wrapped) :
      Wraps d start place options (.map kind (before ++ (.text name, given) :: after))
        (.map kind (before ++ (.text name, wrapped) :: after))
  | pair {place : Place} {options layer : Entries} {given wrapped : Value} {kind : MapKind}
      (wraps : Wraps d start place (Entries.merge layer options) given wrapped) :
      Wraps d start place options (.tuple [given, .map kind layer])
        (.tuple [wrapped, .map kind layer])
  | typed {place : Place} {options : Entries} {given wrapped : Value} {kind : MapKind}
      {before after : Entries} (first : before.get? typeKey = none)
      (wraps : Wraps d start place
        (Entries.merge (Entries.erase (before ++ after) typeKey) options) given wrapped) :
      Wraps d start place options (.map kind (before ++ (.text typeKey, given) :: after))
        (.map kind (before ++ (.text typeKey, wrapped) :: after))

/-- Wherever the option is given. -/
theorem Refers.of_hole {c : ProviderClass} {registry : Registry} {how candidate : Value}
    (delegates : Delegates c registry how candidate) {before after : Entries}
    (given : Entries.get? (before ++ after) typeKey = some how) {kind : MapKind}
    (lists : Entries.hidden kind (before ++ after) = false) (spec : Value) :
    Refers c registry (.map kind (before ++ (.text Behaviour.delegatedOption, spec) :: after)) []
      candidate (before.erase typeKey ++
        (.text Behaviour.delegatedOption, spec) :: after.erase typeKey) := by
  have differs : Behaviour.delegatedOption ≠ typeKey := by decide
  have items : Entries.contains (before ++ (.text Behaviour.delegatedOption, spec) :: after)
      "items" = Entries.contains (before ++ after) "items" := by
    rw [Entries.contains, Entries.get?_hole_of_ne (by decide), Entries.contains]
  have refers : Refers c registry (.map kind (before ++
      (.text Behaviour.delegatedOption, spec) :: after)) [] candidate _ :=
    .typed ((Entries.get?_hole_of_ne differs before spec after).trans given)
      ((Entries.hidden_congr items kind).trans lists) (.here delegates)
  rw [Entries.erase_hole_of_ne differs] at refers
  exact refers

/-- A part of a delegated part. -/
theorem Wraps.inside_hole {d : Delegate} {start : Session} {how candidate : Value}
    (delegates : Delegates d.provider start.registry how candidate) (before after : Entries)
    (given : Entries.get? (before ++ after) typeKey = some how)
    (first : before.get? Behaviour.delegatedOption = none)
    (tolerated : Entries.Hold (start.Tolerates d) ((before ++ after).erase typeKey))
    {spec wrapped : Value} (portable : spec.Portable ∧ wrapped.Portable)
    (wraps : Wraps d start .free [] spec wrapped) {kind : MapKind}
    (lists : Entries.hidden kind (before ++ after) = false) (place : Place) :
    Wraps d start place []
      (.map kind (before ++ (.text Behaviour.delegatedOption, spec) :: after))
      (.map kind (before ++ (.text Behaviour.delegatedOption, wrapped) :: after)) := by
  rw [Entries.erase_append] at tolerated
  exact .inside (.of_hole delegates given lists spec) (.of_hole delegates given lists wrapped)
    (Entries.get?_erase_of_none first _) portable tolerated wraps

end Shorthand

/-- The nodes of two such descriptions. -/
inductive Descriptor.Stands (d : Delegate) (start : Session) :
    Descriptor → Descriptor → Prop where
  | here {spec : Value} {node : Descriptor} {id : Nat} (portable : spec.Portable)
      (reads : ∀ session, start.Steady session →
        (spec.parse [] none).run.run session = (.ok node, session))
      (tolerated : start.ToleratesNode d node) (checked : node.Checked) :
      Stands d start node
        (.ref (.provider d.provider id) [(.text Behaviour.delegatedOption, spec.freeze)])
  | inside {given wrapped : Value} {id : Nat} {before after : Entries}
      (first : before.get? Behaviour.delegatedOption = none)
      (portable : given.Portable ∧ wrapped.Portable)
      (tolerated : Entries.Hold (start.Tolerates d) (before ++ after))
      (wraps : Shorthand.Wraps d start .free [] given wrapped) :
      Stands d start
        (.ref (.provider d.provider id)
          (before ++ (.text Behaviour.delegatedOption, given.freeze) :: after))
        (.ref (.provider d.provider id)
          (before ++ (.text Behaviour.delegatedOption, wrapped.freeze) :: after))
  | array {element other : Descriptor} {options : ArrayOptions}
      (stands : Stands d start element other) :
      Stands d start (.array element options) (.array other options)
  | mapping {before after : List Field} {name : String} {node other : Descriptor}
      {optional : Bool} {key : Option String} {nullable : Bool}
      (tolerated : ∀ field ∈ before ++ after, start.ToleratesNode d field.descriptor)
      (stands : Stands d start node other) :
      Stands d start (.mapping (before ++ ⟨name, node, optional, key⟩ :: after) nullable)
        (.mapping (before ++ ⟨name, other, optional, key⟩ :: after) nullable)

/-- Fields of which one stands for a field with a delegated part. -/
inductive Descriptor.FieldsStand (d : Delegate) (start : Session) :
    List Field → List Field → Prop where
  | mk (before after : List Field) {name : String} {node other : Descriptor} {optional : Bool}
      {key : Option String}
      (tolerated : ∀ field ∈ before ++ after, start.ToleratesNode d field.descriptor)
      (stands : Stands d start node other) :
      FieldsStand d start (before ++ ⟨name, node, optional, key⟩ :: after)
        (before ++ ⟨name, other, optional, key⟩ :: after)

theorem Descriptor.Stands.of_fields {d : Delegate} {start : Session}
    {fields others : List Field} (stand : FieldsStand d start fields others) (nullable : Bool) :
    Stands d start (.mapping fields nullable) (.mapping others nullable) := by
  obtain ⟨before, after, tolerated, stands⟩ := stand
  exact .mapping tolerated stands

theorem Descriptor.Stands.isForeign {d : Delegate} {start : Session}
    {node other : Descriptor} (stands : Stands d start node other) :
    node.isForeign = other.isForeign := by
  cases stands with
  | @here _ node _ _ _ _ checked =>
      cases node with
      | foreign value => exact checked.elim
      | _ => rfl
  | _ => rfl

theorem Descriptor.FieldsStand.clashes {d : Delegate} {start : Session}
    {fields others : List Field} (stand : FieldsStand d start fields others) :
    Descriptor.clashes fields = Descriptor.clashes others := by
  obtain ⟨before, after, _, _⟩ := stand
  simp only [Descriptor.clashes, List.map_append, List.map_cons, Field.wireKey]

namespace Descriptor

mutual
theorem hashable_of_checked : (node : Descriptor) → node.Checked → node.hashable = true
  | .primitive _, _ => rfl
  | .mapping fields _, checked => allFieldsHashable_of_checked fields checked.2.2
  | .array element _, checked => element.hashable_of_checked checked
  | .ref _ _, _ => rfl
termination_by structural node => node

theorem allFieldsHashable_of_checked : (fields : List Field) → fieldsChecked fields →
    allFieldsHashable fields = true
  | [], _ => rfl
  | ⟨_, descriptor, _, _⟩ :: rest, checked => by
      rw [allFieldsHashable, descriptor.hashable_of_checked checked.1,
        allFieldsHashable_of_checked rest checked.2]
      rfl
termination_by structural fields => fields
end

theorem allFieldsHashable_append (before after : List Field) :
    allFieldsHashable (before ++ after) =
      (allFieldsHashable before && allFieldsHashable after) := by
  induction before with
  | nil => rfl
  | cons field rest induction =>
      obtain ⟨name, descriptor, optional, key⟩ := field
      rw [List.cons_append, allFieldsHashable, induction, allFieldsHashable, Bool.and_assoc]

theorem Stands.hashable {d : Delegate} {start : Session} {node other : Descriptor}
    (stands : Stands d start node other) : node.hashable = other.hashable := by
  induction stands with
  | here _ _ _ checked => exact hashable_of_checked _ checked
  | inside => rfl
  | array _ same => exact same
  | mapping _ _ same =>
      rw [Descriptor.hashable, Descriptor.hashable, allFieldsHashable_append,
        allFieldsHashable_append, allFieldsHashable, allFieldsHashable, same]

end Descriptor

/-! ### Taking the provider -/

/-- The class lacks nothing, and its objects are made without arguments. -/
structure ProviderClass.Able (c : ProviderClass) : Prop where
  lacks : c.lacks = []
  refusal : c.refusal = none

namespace ProviderClass.Able

variable {c : ProviderClass}

theorem conform_object (able : c.Able) (id : Nat) :
    (Value.provider c id).conform = pure (.provider c id) := by
  simp [Value.conform, Value.lackedOperations, able.lacks]

theorem conform_class (able : c.Able) :
    (Value.providerClass c).conform = modifyGet (fun session =>
      (.provider c (session.instances.share c).1,
        { session with instances := (session.instances.share c).2 })) := by
  simp [Value.conform, Value.lackedOperations, able.lacks, able.refusal]

end ProviderClass.Able

namespace Delegate

variable {d : Delegate} {registry : Registry} {start : Session}

/-- Taking the provider on one side only goes unnoticed. -/
theorem conform_right (able : d.provider.Able) {candidate : Value}
    (delegates : Shorthand.Delegates d.provider registry d.how candidate) {first second : Session}
    (abreast : Session.Abreast d start first second) :
    ∃ id, candidate.conform.outcome second = .ok (.provider d.provider id) ∧
      Session.Abreast d start first (candidate.conform.after second) := by
  obtain ⟨c, how⟩ := d
  dsimp only at able delegates ⊢
  cases delegates with
  | shared =>
      rw [able.conform_class]
      exact ⟨_, rfl, abreast.share_right rfl⟩
  | object id =>
      rw [able.conform_object]
      exact ⟨id, rfl, abreast⟩
  | named free registered =>
      rw [able.conform_object]
      exact ⟨_, rfl, abreast⟩

theorem conform_both (able : d.provider.Able) {how candidate : Value}
    (delegates : Shorthand.Delegates d.provider registry how candidate) :
    candidate.conform.Accords (Session.Abreast d start)
      (fun provider => ∃ id, provider = .provider d.provider id) := by
  cases delegates with
  | shared =>
      rw [able.conform_class]
      intro first second abreast
      obtain ⟨same, later⟩ := abreast.share_both (c := d.provider) (.inr (.inl rfl))
      exact ⟨.ok ⟨congrArg (Value.provider d.provider) same, _, rfl⟩, later⟩
  | object id =>
      rw [able.conform_object]
      exact .pure ⟨id, rfl⟩
  | named free registered =>
      rw [able.conform_object]
      exact .pure ⟨_, rfl⟩

end Delegate

end RecordSchema
