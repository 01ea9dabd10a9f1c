import RecordSchema.Error

namespace RecordSchema

/-!
Provider objects: the one shared by all uses of a class, and copies with a memory of
their own.  Copying a value gives each object in it a new identity, unless objects of its
class are told apart by content.
-/

/-- The object that each class shares, the next free identity, and what objects
remember. -/
structure Instances where
  shared : List (String × Nat) := []
  next : Nat := 0
  memory : List (Nat × Value) := []

namespace Instances

def shared? (instances : Instances) (c : ProviderClass) : Option Nat :=
  (instances.shared.find? (fun entry => entry.1 = c.key)).map Prod.snd

/-- What an object remembers; null if it has not been told anything. -/
def stateOf (instances : Instances) (id : Nat) : Value :=
  match instances.memory.find? (fun entry => entry.1 = id) with
  | some entry => entry.2
  | none => .null

def remember (instances : Instances) (id : Nat) (value : Value) : Instances :=
  { instances with
    memory := (id, value) :: instances.memory.filter (fun entry => entry.1 ≠ id) }

def fresh (instances : Instances) : Nat × Instances :=
  (instances.next, { instances with next := instances.next + 1 })

def share (instances : Instances) (c : ProviderClass) : Nat × Instances :=
  match instances.shared? c with
  | some id => (id, instances)
  | none =>
      let (id, instances) := instances.fresh
      (id, { instances with shared := (c.key, id) :: instances.shared })

def clone (instances : Instances) (id : Nat) : Nat × Instances :=
  let (copy, instances) := instances.fresh
  (copy, instances.remember copy (instances.stateOf id))

end Instances

/-- Steps that make objects and may fail. -/
abbrev Copying := ExceptT Fault (StateM Instances)

def copyProvider (c : ProviderClass) (id : Nat) : Copying Value :=
  if !c.copyable then throw .type
  else if c.hashable then
    fun instances => (.ok (.provider c (instances.clone id).1), (instances.clone id).2)
  else pure (.provider c id)

mutual
/-- A copy that shares no object with the value.  Objects of some classes cannot be
copied, nor can references. -/
def Value.copy : Value → Copying Value
  | .list items => return .list (← copyItems items)
  | .tuple items => return .tuple (← copyItems items)
  | .set frozen members => return .set frozen (← copyItems members)
  | .map kind entries => return .map kind (← copyEntries entries)
  | .provider c id => copyProvider c id
  | .descriptor node => return .descriptor (← node.copy)
  | .field ⟨name, descriptor, optional, key⟩ =>
      return .field ⟨name, ← descriptor.copy, optional, key⟩
  | .other _ => throw .type
  | value => return value
termination_by structural value => value

def copyItems : List Value → Copying (List Value)
  | [] => return []
  | item :: items => return (← item.copy) :: (← copyItems items)
termination_by structural items => items

def copyEntries : List (Value × Value) → Copying (List (Value × Value))
  | [] => return []
  | (key, value) :: rest => return (key, ← value.copy) :: (← copyEntries rest)
termination_by structural entries => entries

def Descriptor.copy : Descriptor → Copying Descriptor
  | .primitive options => return .primitive options
  | .mapping fields nullable => return .mapping (← copyFields fields) nullable
  | .array element options => return .array (← element.copy) options
  | .ref _ _ => throw .type
  | .foreign value => return .foreign (← value.copy)
termination_by structural node => node

def copyFields : List Field → Copying (List Field)
  | [] => return []
  | ⟨name, descriptor, optional, key⟩ :: rest =>
      return ⟨name, ← descriptor.copy, optional, key⟩ :: (← copyFields rest)
termination_by structural fields => fields
end

end RecordSchema
