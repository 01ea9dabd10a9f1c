import RecordSchema.Proofs.Descriptor.Soundness

namespace RecordSchema

/-! Whatever nodes are made of, by constructors, by reading descriptions and by attaching
options, in any order, every node in the result is well formed. -/

namespace Descriptor

/-- The node itself, or one in a field or an element of it. -/
inductive Within : Descriptor → Descriptor → Prop where
  | self (node : Descriptor) : Within node node
  | field {inner : Descriptor} {fields : List Field} {nullable : Bool} {field : Field}
      (among : field ∈ fields) (within : Within inner field.descriptor) :
      Within inner (.mapping fields nullable)
  | element {inner element : Descriptor} {options : ArrayOptions}
      (within : Within inner element) : Within inner (.array element options)

/-- Options are of the node's kind and of their declared types, fields share neither a name
nor a key, and a reference holds an able object and options that nobody can change. -/
def WellFormed (allowed : Prop) : Descriptor → Prop
  | .primitive options =>
      (OptionRecord.primitive options).recordKind = .primitive options.kind ∧
        (OptionRecord.primitive options).WellTyped ∧
          (OptionRecord.primitive options).Permitted allowed
  | .mapping fields nullable =>
      (fields.map Field.name).Nodup ∧ (fields.map Field.wireKey).Nodup ∧
        (OptionRecord.mapping nullable).WellTyped
  | .array _ options => (OptionRecord.array options).WellTyped
  | .ref provider options => provider.Conforming ∧ entriesFrozen options
  | .foreign _ => False

variable {allowed : Prop} {inner node : Descriptor}

theorem Sound.within (sound : node.Sound allowed) (within : inner.Within node) :
    inner.Sound allowed := by
  induction within with
  | self => exact sound
  | field among _ induction => exact induction (fieldsSound_iff.mp sound.2.2 _ among)
  | element _ induction => exact induction sound

end Descriptor

namespace Value

/-- Values that are no containers and hold no nodes. -/
def Atomic : Value → Prop
  | .null | .bool _ | .number _ | .text _ | .bytes _ _ | .date _ _ _ | .moment _
  | .providerClass _ | .provider _ _ | .other _ => True
  | _ => False

/-- Values that a program can come by without going round the checks: containers of such
values, what is built from them, and the parts of nodes.  The sessions may differ, but only
where it is allowed do their settings allow a nullable `any`. -/
inductive Obtainable (allowed : Prop) : Value → Prop where
  | atom {value : Value} (atomic : value.Atomic) : Obtainable allowed value
  | list {items : List Value} (inside : ∀ item ∈ items, Obtainable allowed item) :
      Obtainable allowed (.list items)
  | tuple {items : List Value} (inside : ∀ item ∈ items, Obtainable allowed item) :
      Obtainable allowed (.tuple items)
  | set {frozen : Bool} {members : List Value} (hashable : allHashable members = true)
      (inside : ∀ member ∈ members, Obtainable allowed member) :
      Obtainable allowed (.set frozen members)
  | map {kind : MapKind} {entries : Entries}
      (hashable : ∀ entry ∈ entries, entry.1.hashable = true)
      (keys : ∀ entry ∈ entries, Obtainable allowed entry.1)
      (inside : ∀ entry ∈ entries, Obtainable allowed entry.2) :
      Obtainable allowed (.map kind entries)
  | built {blueprint : Blueprint} {given : Arguments} {session : Session} {value : Value}
      (inside : ∀ argument ∈ given, Obtainable allowed argument.2)
      (policy : session.environment.nullableAny = .accepted true → allowed)
      (made : (blueprint.build given).outcome session = .ok value) : Obtainable allowed value
  | parsed {spec : Value} {options : Entries} {registry : Option Registry} {session : Session}
      {node : Descriptor} (described : Obtainable allowed spec)
      (layered : Obtainable allowed (.map .plain options))
      (policy : session.environment.nullableAny = .accepted true → allowed)
      (made : (spec.parse options registry).outcome session = .ok node) :
      Obtainable allowed (.descriptor node)
  | configured {given node : Descriptor} {options : Entries} {session : Session}
      (obtained : Obtainable allowed (.descriptor given))
      (layered : Obtainable allowed (.map .plain options))
      (policy : session.environment.nullableAny = .accepted true → allowed)
      (made : (given.withOptions options).outcome session = .ok node) :
      Obtainable allowed (.descriptor node)
  | field {fields : List Field} {nullable : Bool} {field : Field}
      (obtained : Obtainable allowed (.descriptor (.mapping fields nullable)))
      (among : field ∈ fields) : Obtainable allowed (.field field)
  | node {field : Field} (obtained : Obtainable allowed (.field field)) :
      Obtainable allowed (.descriptor field.descriptor)
  | element {element : Descriptor} {options : ArrayOptions}
      (obtained : Obtainable allowed (.descriptor (.array element options))) :
      Obtainable allowed (.descriptor element)
  | option {provider : Value} {options : Entries} {entry : Value × Value}
      (obtained : Obtainable allowed (.descriptor (.ref provider options)))
      (among : entry ∈ options) : Obtainable allowed entry.2

namespace Obtainable

variable {allowed : Prop}

theorem sound {value : Value} (obtained : value.Obtainable allowed) : value.Sound allowed := by
  induction obtained with
  | @atom value atomic =>
      cases value with
      | list | tuple | set | map | descriptor | field | options => exact atomic.elim
      | _ => trivial
  | list _ induction => exact itemsSound_iff.mpr induction
  | tuple _ induction => exact itemsSound_iff.mpr induction
  | set hashable _ induction => exact ⟨hashable, itemsSound_iff.mpr induction⟩
  | map hashable _ _ keys induction =>
      exact entriesSound_iff.mpr
        ⟨fun entry among => ⟨hashable entry among, keys entry among⟩, induction⟩
  | built _ policy made induction =>
      exact ((Standard.sound allowed).build_yields _ induction).gives _ _ policy made
  | parsed _ _ policy made described layered =>
      exact ((Standard.sound allowed).read_yields described layered _).gives _ _ policy made
  | configured _ _ policy made obtained layered =>
      exact ((Standard.sound allowed).withOptions_yields obtained layered).gives _ _ policy made
  | @field _ _ field _ among induction =>
      exact (Standard.sound allowed).field.mpr (fieldsSound_iff.mp induction.2.2 field among)
  | node _ induction => exact (Standard.sound allowed).field.mp induction
  | element _ induction => exact induction
  | option _ among induction => exact (entriesSound_iff.mp induction.2.2).2 _ among

end Obtainable

end Value

end RecordSchema
