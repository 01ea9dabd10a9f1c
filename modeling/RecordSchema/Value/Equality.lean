import RecordSchema.Value.Basic

namespace RecordSchema

/-!
Equality of values as keys, members and options compare: numbers and truth values by
their exact value, sequences by their items, mappings and sets by content whatever their
order and kind, providers by identity.  With `loose` the two kinds of sequence are one, as
they are in thawed options.
-/

mutual
def Value.same (loose : Bool) : Value → Value → Bool
  | .null, .null => true
  | .bool a, other =>
    match other.number? with
    | some b => Number.same (.int (if a then 1 else 0)) b
    | none => false
  | .number a, other =>
    match other.number? with
    | some b => Number.same a b
    | none => false
  | .text a, .text b => a = b
  | .bytes _ a, .bytes _ b => a = b
  | .list a, .list b => sameItems loose a b
  | .list a, .tuple b => loose && sameItems loose a b
  | .tuple a, .list b => loose && sameItems loose a b
  | .tuple a, .tuple b => sameItems loose a b
  | .set _ a, .set _ b => a.length = b.length && membersWithin loose a b
  | .map _ a, .map _ b => a.length = b.length && entriesWithin loose a b
  | .date y m d, .date y' m' d' => y = y' && m = m' && d = d'
  | .moment a, .moment b => a = b
  | .providerClass a, .providerClass b => a.key = b.key
  | .provider _ a, .provider _ b => a = b
  | .descriptor a, .descriptor b => Descriptor.same a b
  | .field ⟨name, descriptor, optional, key⟩, .field other =>
    name = other.name && optional = other.optional && key = other.key
      && Descriptor.same descriptor other.descriptor
  | .options a, .options b => a.same b
  | .other a, .other b => a = b
  | _, _ => false
termination_by structural value => value

def sameItems (loose : Bool) : List Value → List Value → Bool
  | [], [] => true
  | a :: as, b :: bs => Value.same loose a b && sameItems loose as bs
  | _, _ => false
termination_by structural items => items

def membersWithin (loose : Bool) : List Value → List Value → Bool
  | [], _ => true
  | a :: as, bs => bs.any (fun b => Value.same loose a b) && membersWithin loose as bs
termination_by structural members => members

def entriesWithin (loose : Bool) : List (Value × Value) → List (Value × Value) → Bool
  | [], _ => true
  | (key, value) :: rest, others =>
    (match others.find? (fun other => Value.same false key other.1) with
      | some other => Value.same loose value other.2
      | none => false)
      && entriesWithin loose rest others
termination_by structural entries => entries

/-- Equality of nodes.  References are equal iff they hold the same provider and their
options are equal once thawed. -/
def Descriptor.same : Descriptor → Descriptor → Bool
  | .primitive a, .primitive b => a.same b
  | .mapping a nullable, .mapping b nullable' => nullable = nullable' && sameFields a b
  | .array a options, .array b options' => options = options' && Descriptor.same a b
  | .ref p a, .ref q b =>
    Value.same false p q && (a.length = b.length && entriesWithin true a b)
  | .foreign a, .foreign b => Value.same false a b
  | _, _ => false
termination_by structural node => node

def sameFields : List Field → List Field → Bool
  | [], [] => true
  | ⟨name, descriptor, optional, key⟩ :: as, b :: bs =>
    name = b.name && optional = b.optional && key = b.key
      && Descriptor.same descriptor b.descriptor && sameFields as bs
  | _, _ => false
termination_by structural fields => fields
end

/-- Whether two values are one as keys, members and items. -/
abbrev Value.eqv (a b : Value) : Bool := Value.same false a b

def Value.equals (a b : Value) : Bool :=
  match a with
  | .number value => !value.isNaN && a.eqv b
  | a => a.eqv b

mutual
def Value.hashable : Value → Bool
  | .bytes mutable _ => !mutable
  | .list _ => false
  | .tuple items => allHashable items
  | .set frozen _ => frozen
  | .map _ _ => false
  | .provider c _ => c.hashable
  | .descriptor node => node.hashable
  | .field ⟨_, descriptor, _, _⟩ => descriptor.hashable
  | _ => true
termination_by structural value => value

def allHashable : List Value → Bool
  | [] => true
  | item :: items => item.hashable && allHashable items
termination_by structural items => items

/-- Nodes can be keys, whatever their references hold. -/
def Descriptor.hashable : Descriptor → Bool
  | .mapping fields _ => allFieldsHashable fields
  | .array element _ => element.hashable
  | .foreign value => value.hashable
  | _ => true
termination_by structural node => node

def allFieldsHashable : List Field → Bool
  | [] => true
  | ⟨_, descriptor, _, _⟩ :: rest => descriptor.hashable && allFieldsHashable rest
termination_by structural fields => fields
end

end RecordSchema
