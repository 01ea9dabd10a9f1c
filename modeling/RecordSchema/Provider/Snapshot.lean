import RecordSchema.Provider.Instances
import RecordSchema.Value.Entries

namespace RecordSchema

/-!
Snapshots of provider options.  `Value.freeze` makes every container read-only,
`Value.thaw?` gives plain containers back, `Descriptor.compare` compares references by what
it gives back, and `Value.keyAgrees` compares the keys under which snapshots are filed.
-/

mutual
/-- The value with every container in its read-only form. -/
def Value.freeze : Value → Value
  | .list items => .tuple (freezeItems items)
  | .tuple items => .tuple (freezeItems items)
  | .set _ members => .set true (freezeItems members)
  | .map _ entries => .map .readOnly (freezeEntries entries)
  | value => value
termination_by structural value => value

def freezeItems : List Value → List Value
  | [] => []
  | item :: items => item.freeze :: freezeItems items
termination_by structural items => items

def freezeEntries : List (Value × Value) → List (Value × Value)
  | [] => []
  | (key, value) :: rest => (key, value.freeze) :: freezeEntries rest
termination_by structural entries => entries
end

mutual
/-- Whether every mapping within the value can list its entries. -/
def Value.listable : Value → Bool
  | .list items => itemsListable items
  | .tuple items => itemsListable items
  | .set _ members => itemsListable members
  | .map kind entries => !Entries.hidden kind entries && entriesListable entries
  | _ => true
termination_by structural value => value

def itemsListable : List Value → Bool
  | [] => true
  | item :: items => item.listable && itemsListable items
termination_by structural items => items

def entriesListable : List (Value × Value) → Bool
  | [] => true
  | (_, value) :: rest => value.listable && entriesListable rest
termination_by structural entries => entries
end

mutual
/-- The value with every container in its plain form.  A sequence or set that is a
member of a set has no plain form, since those cannot be members. -/
def Value.thaw? : Value → Option Value
  | .list items => (thawItems? items).map .list
  | .tuple items => (thawItems? items).map .list
  | .set true members =>
      (thawItems? members).bind (fun members =>
        if allHashable members then some (.set false members) else none)
  | .map _ entries => (thawEntries? entries).map (.map .plain)
  | value => some value
termination_by structural value => value

def thawItems? : List Value → Option (List Value)
  | [] => some []
  | item :: items =>
      item.thaw?.bind (fun item => (thawItems? items).map (item :: ·))
termination_by structural items => items

def thawEntries? : List (Value × Value) → Option (List (Value × Value))
  | [] => some []
  | (key, value) :: rest =>
      value.thaw?.bind (fun value => (thawEntries? rest).map ((key, value) :: ·))
termination_by structural entries => entries
end

mutual
/-- Whether two snapshots are filed under one key.  What cannot be a key itself is filed
under the name of its type. -/
def Value.keyAgrees : Value → Value → Bool
  | .map _ a, .map _ b => a.length = b.length && entryKeysAgree a b
  | .tuple a, .tuple b => itemKeysAgree a b
  | .bytes true _, .bytes true _ => true
  | .bytes true _, .text b => b = "bytearray"
  | .text a, .bytes true _ => a = "bytearray"
  | .bytes true _, _ => false
  | _, .bytes true _ => false
  | .provider c a, .provider d b =>
      if c.hashable then a = b else !d.hashable && c.typeName = d.typeName
  | .descriptor a, .descriptor b => a.keyAgrees b
  | .field ⟨_, descriptor, _, _⟩, .field other => descriptor.keyAgrees other.descriptor
  | a, b => a.eqv b
termination_by structural value => value

def itemKeysAgree : List Value → List Value → Bool
  | [], [] => true
  | a :: as, b :: bs => a.keyAgrees b && itemKeysAgree as bs
  | _, _ => false
termination_by structural items => items

def entryKeysAgree : List (Value × Value) → List (Value × Value) → Bool
  | [], _ => true
  | (key, value) :: rest, others =>
      (match others.find? (fun other => key.eqv other.1) with
        | some other => value.keyAgrees other.2
        | none => false)
        && entryKeysAgree rest others
termination_by structural entries => entries

def Descriptor.keyAgrees : Descriptor → Descriptor → Bool
  | .mapping a _, .mapping b _ => fieldKeysAgree a b
  | .array a _, .array b _ => a.keyAgrees b
  | .ref _ a, .ref _ b => entryKeysAgree a b
  | _, _ => true
termination_by structural node => node

def fieldKeysAgree : List Field → List Field → Bool
  | [], [] => true
  | ⟨_, descriptor, _, _⟩ :: as, b :: bs =>
      descriptor.keyAgrees b.descriptor && fieldKeysAgree as bs
  | _, _ => false
termination_by structural fields => fields
end

namespace Entries

/-- A snapshot of a mapping that nobody else can change. -/
def snapshot (entries : Entries) (kind : MapKind := .plain) : Copying Entries :=
  if (Value.map kind entries).listable then copyEntries (freezeEntries entries)
  else throw .type

def delivery (entries : Entries) : Copying Entries :=
  match thawEntries? entries with
  | some entries => copyEntries entries
  | none => throw .type

/-- Snapshots are compared in their plain form. -/
def compare (options others : Entries) : Except Fault Bool :=
  match thawEntries? options, thawEntries? others with
  | some options, some others => .ok ((Value.map .plain options).eqv (.map .plain others))
  | _, _ => .error .type

end Entries

/-- Comparing two nodes.  The options of references are compared if both hold one provider. -/
def Descriptor.compare : Descriptor → Descriptor → Except Fault Bool
  | .ref provider options, .ref other others =>
      if provider.eqv other then Entries.compare options others else .ok false
  | node, other => .ok (node.same other)

def Value.compare : Value → Value → Except Fault Bool
  | .descriptor a, .descriptor b => a.compare b
  | a, b => .ok (a.equals b)

end RecordSchema
