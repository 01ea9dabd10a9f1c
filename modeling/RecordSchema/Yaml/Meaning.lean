import RecordSchema.Value.Entries
import RecordSchema.Yaml.Literal
import RecordSchema.Yaml.Node

namespace RecordSchema.Yaml

/-!
What nodes stand for.  Entries of merged mappings come before the entries of the mapping
that merges them, and the last entry with a key gives its value.  Of several problems the
one nearest to the root counts, and among those the first.
-/

structure Finding where
  depth : Nat
  problem : Problem
deriving DecidableEq, Repr

abbrev Outcome := Except Finding

namespace Outcome

def ofRead (depth : Nat) : Read α → Outcome α
  | .ok value => .ok value
  | .error problem => .error ⟨depth, problem⟩

def refuse (depth : Nat) : Outcome α :=
  .error ⟨depth, .malformed⟩

def pair : Outcome α → Outcome β → Outcome (α × β)
  | .ok a, .ok b => .ok (a, b)
  | .ok _, .error finding => .error finding
  | .error finding, .ok _ => .error finding
  | .error first, .error second => .error (if second.depth < first.depth then second else first)

def collect : List (Outcome α) → Outcome (List α)
  | [] => .ok []
  | first :: rest => (pair first (collect rest)).map (fun found => found.1 :: found.2)

def toRead : Outcome α → Read α
  | .ok value => .ok value
  | .error finding => .error finding.problem

@[simp] theorem collect_nil : collect ([] : List (Outcome α)) = .ok [] := rfl

@[simp] theorem pair_ok (a : α) (b : β) :
    pair (.ok a : Outcome α) (.ok b : Outcome β) = .ok (a, b) := rfl

end Outcome

namespace Tag

/-- Whether nodes of the type hold others.  What they stand for cannot be a key. -/
def isCollection : Tag → Bool
  | .seq | .map | .set | .omap | .pairs => true
  | _ => false

end Tag

mutual
/-- The text of a scalar.  A mapping has the text under its mark of a value. -/
def Node.scalarText? : Node → Option String
  | .scalar _ text => some text
  | .sequence _ _ => none
  | .mapping _ entries => markedText? entries
termination_by structural node => node

def markedText? : List (Node × Node) → Option String
  | [] => none
  | (key, value) :: rest =>
      if key.tag = .value then value.scalarText? else markedText? rest
termination_by structural entries => entries
end

def scalarValue (depth : Nat) (tag : Tag) (text : Option String) : Outcome Value :=
  match text with
  | some text => .ofRead depth (Literal.value tag text)
  | none => .refuse depth

abbrev Parts := List (Outcome (Value × Value))

mutual
/-- What a node stands for.  The parts of a collection lie one step further from the
root. -/
def Node.value (depth : Nat) : Node → Outcome Value
  | .scalar tag text =>
      if tag.isCollection then .refuse (depth + 1) else scalarValue depth tag (some text)
  | .sequence tag items =>
      match tag with
      | .seq => (Outcome.collect (itemValues (depth + 1) items)).map .list
      | .omap | .pairs => (Outcome.collect (pairValues (depth + 1) items)).map .list
      | tag => .refuse (if tag.isCollection then depth + 1 else depth)
  | .mapping tag entries =>
      match tag with
      | .map => do
          let parts ← .ofRead (depth + 1) (mergedParts (depth + 1) entries)
          return .map .plain (Entries.ofList (← .collect (parts.1 ++ parts.2)))
      | .set => do
          let parts ← .ofRead (depth + 1) (mergedParts (depth + 1) entries)
          return .set false (distinct ((← .collect (parts.1 ++ parts.2)).map Prod.fst))
      | tag =>
          if tag.isCollection then .refuse (depth + 1)
          else scalarValue depth tag (markedText? entries)
termination_by structural node => node

def itemValues (depth : Nat) : List Node → List (Outcome Value)
  | [] => []
  | item :: items => item.value depth :: itemValues depth items
termination_by structural items => items

def pairValues (depth : Nat) : List Node → List (Outcome Value)
  | [] => []
  | .mapping _ [(key, value)] :: items =>
      (Outcome.pair (key.value depth) (value.value depth)).map
          (fun found => .tuple [found.1, found.2])
        :: pairValues depth items
  | _ :: items => .refuse depth :: pairValues depth items
termination_by structural items => items

/-- The parts that a mapping merges, and those of its own.  The mark of a value is text
where it is a key. -/
def mergedParts (depth : Nat) : List (Node × Node) → Read (Parts × Parts)
  | [] => .ok ([], [])
  | (key, value) :: entries => do
      let (merged, own) ← mergedParts depth entries
      if key.tag = .merge then return ((← sourceParts depth value) ++ merged, own)
      else
        let name :=
          if key.tag = .value then scalarValue depth .str key.scalarText?
          else if key.tag.isCollection then .refuse depth
          else key.value depth
        return (merged, Outcome.pair name (value.value depth) :: own)
termination_by structural entries => entries

def sourceParts (depth : Nat) : Node → Read Parts
  | .mapping _ entries => do
      let (merged, own) ← mergedParts depth entries
      return merged ++ own
  | .sequence _ items => sequenceParts depth items
  | .scalar _ _ => malformed
termination_by structural node => node

def sequenceParts (depth : Nat) : List Node → Read Parts
  | [] => .ok []
  | .mapping _ entries :: items => do
      let (merged, own) ← mergedParts depth entries
      return (← sequenceParts depth items) ++ merged ++ own
  | _ :: _ => malformed
termination_by structural items => items
end

def valueOfText? (text : String) : Read (Option Value) := do
  match ← Node.ofText? text with
  | some node => return some (← (node.value 0).toRead)
  | none => return none

end RecordSchema.Yaml
