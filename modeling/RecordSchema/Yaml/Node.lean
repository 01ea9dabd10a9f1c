import RecordSchema.Yaml.Plain
import RecordSchema.Yaml.Token.Lexer

namespace RecordSchema.Yaml

/-!
The tree of a text: scalars, sequences and mappings with their types.  References are
replaced by the nodes they name.
-/

inductive Node where
  | scalar (tag : Tag) (text : String)
  | sequence (tag : Tag) (items : List Node)
  | mapping (tag : Tag) (entries : List (Node × Node))

namespace Node

def tag : Node → Tag
  | .scalar tag _ => tag
  | .sequence tag _ => tag
  | .mapping tag _ => tag

def empty : Node := .scalar .null ""

end Node

/-- What is left to read, the handles of tags, and the nodes that have names; a node
that is not complete yet has none. -/
structure Composer where
  tokens : List Token
  handles : List (String × String) := []
  anchors : List (String × Option Node) := []

abbrev Compose := StateT Composer Read

namespace Compose

def peek : Compose Token :=
  return (← get).tokens.headD .streamEnd

def advance : Compose Unit :=
  modify (fun composer => { composer with tokens := composer.tokens.drop 1 })

def refuse : Compose α := throw .malformed

def expect (token : Token) : Compose Unit := do
  if (← peek) = token then advance else refuse

/-- The node with a name.  A node that refers to itself has no end. -/
def named (name : String) : Compose Node := do
  match (← get).anchors.find? (fun entry => entry.1 = name) with
  | some (_, some node) => return node
  | some (_, none) => throw (.fault .recursion)
  | none => refuse

def define (anchor : Option String) (node : Option Node) : Compose Unit :=
  match anchor with
  | some name =>
      modify (fun composer => { composer with anchors := (name, node) :: composer.anchors })
  | none => return ()

def fullName (tag : TagText) : Compose String := do
  match tag with
  | .verbatim name => return name
  | .handled handle suffix =>
      match (← get).handles.find? (fun entry => entry.1 = handle) with
      | some (_, stem) => return stem ++ suffix
      | none => refuse

def properties : Compose (Option String × Option String) := do
  match ← peek with
  | .anchor name => do
      advance
      match ← peek with
      | .tag tag => do
          advance
          return (some name, some (← fullName tag))
      | _ => return (some name, none)
  | .tag tag => do
      advance
      match ← peek with
      | .anchor name => do
          advance
          return (some name, some (← fullName tag))
      | _ => return (none, some (← fullName tag))
  | _ => return (none, none)

def openTag : String := "!"

def collectionTag (given : Option String) (standard : Tag) : Tag :=
  match given with
  | some name => if name = openTag then standard else .ofName name
  | none => standard

def scalarTag (given : Option String) (text : String) (style : ScalarStyle) : Tag :=
  match given with
  | some name => if name = openTag then Spelling.tagOf text else .ofName name
  | none => if style = .plain then Spelling.tagOf text else .str

def isDefined (anchor : Option String) : Compose Bool := do
  match anchor with
  | some name => return (← get).anchors.any (fun entry => entry.1 = name)
  | none => return false

def endsBlockPart (token : Token) : Bool :=
  token = .key || token = .value || token = .blockEnd

mutual
/-- A node.  Block collections are admitted in blocks only, and a sequence without
indentation only as a part of a mapping. -/
def node : Nat → Bool → Bool → Compose Node
  | 0, _, _ => refuse
  | fuel + 1, inBlock, unindented => do
      match ← peek with
      | .reference name => do
          advance
          named name
      | _ => do
          let (anchor, tag) ← properties
          if ← isDefined anchor then refuse
          else content fuel inBlock unindented anchor tag

def content : Nat → Bool → Bool → Option String → Option String → Compose Node
  | 0, _, _, _, _ => refuse
  | fuel + 1, inBlock, unindented, anchor, tag => do
      match ← peek with
      | .blockEntry =>
          if unindented then sequence anchor tag (unindentedItems fuel)
          else empty anchor tag
      | .scalar text style => do
          advance
          let node := Node.scalar (scalarTag tag text style) text
          define anchor (some node)
          return node
      | .flowSequenceStart => do
          advance
          sequence anchor tag (flowItems fuel true)
      | .flowMappingStart => do
          advance
          mapping anchor tag (flowEntries fuel true)
      | .blockSequenceStart =>
          if inBlock then do
            advance
            sequence anchor tag (blockItems fuel)
          else empty anchor tag
      | .blockMappingStart =>
          if inBlock then do
            advance
            mapping anchor tag (blockEntries fuel)
          else empty anchor tag
      | _ => empty anchor tag
where
  sequence (anchor tag : Option String) (items : Compose (List Node)) : Compose Node := do
    define anchor none
    let node := Node.sequence (collectionTag tag .seq) (← items)
    define anchor (some node)
    return node
  mapping (anchor tag : Option String) (entries : Compose (List (Node × Node))) :
      Compose Node := do
    define anchor none
    let node := Node.mapping (collectionTag tag .map) (← entries)
    define anchor (some node)
    return node
  empty (anchor tag : Option String) : Compose Node := do
    if anchor.isSome || tag.isSome then
      let node := Node.scalar (scalarTag tag "" .plain) ""
      define anchor (some node)
      return node
    else refuse

def blockItems : Nat → Compose (List Node)
  | 0 => refuse
  | fuel + 1 => do
      match ← peek with
      | .blockEntry => do
          advance
          let next ← peek
          let item ← if next = .blockEntry || next = .blockEnd then pure Node.empty
            else node fuel true false
          return item :: (← blockItems fuel)
      | .blockEnd => do
          advance
          return []
      | _ => refuse

def unindentedItems : Nat → Compose (List Node)
  | 0 => refuse
  | fuel + 1 => do
      match ← peek with
      | .blockEntry => do
          advance
          let next ← peek
          let item ← if next = .blockEntry || endsBlockPart next then pure Node.empty
            else node fuel true false
          return item :: (← unindentedItems fuel)
      | _ => return []

def blockEntries : Nat → Compose (List (Node × Node))
  | 0 => refuse
  | fuel + 1 => do
      match ← peek with
      | .key => do
          advance
          let key ← if endsBlockPart (← peek) then pure Node.empty else node fuel true true
          let value ← blockValue fuel
          return (key, value) :: (← blockEntries fuel)
      | .blockEnd => do
          advance
          return []
      | _ => refuse

def blockValue : Nat → Compose Node
  | 0 => refuse
  | fuel + 1 => do
      match ← peek with
      | .value => do
          advance
          if endsBlockPart (← peek) then return Node.empty else node fuel true true
      | _ => return Node.empty

def flowItems : Nat → Bool → Compose (List Node)
  | 0, _ => refuse
  | fuel + 1, isFirst => do
      if (← peek) = .flowSequenceEnd then
        advance
        return []
      else
        if !isFirst then expect .flowEntry
        match ← peek with
        | .key => do
            advance
            let entry ← flowPair fuel .flowSequenceEnd
            return .mapping .map [entry] :: (← flowItems fuel false)
        | .flowSequenceEnd => do
            advance
            return []
        | _ => do
            let item ← node fuel false false
            return item :: (← flowItems fuel false)

def flowEntries : Nat → Bool → Compose (List (Node × Node))
  | 0, _ => refuse
  | fuel + 1, isFirst => do
      if (← peek) = .flowMappingEnd then
        advance
        return []
      else
        if !isFirst then expect .flowEntry
        match ← peek with
        | .key => do
            advance
            let entry ← flowPair fuel .flowMappingEnd
            return entry :: (← flowEntries fuel false)
        | .flowMappingEnd => do
            advance
            return []
        | _ => do
            let key ← node fuel false false
            return (key, Node.empty) :: (← flowEntries fuel false)

/-- A key and its value in a flow collection; either may be left out. -/
def flowPair : Nat → Token → Compose (Node × Node)
  | 0, _ => refuse
  | fuel + 1, close => do
      let next ← peek
      let key ← if next = .value || next = .flowEntry || next = close then pure Node.empty
        else node fuel false false
      if (← peek) = .value then
        advance
        let next ← peek
        let value ← if next = .flowEntry || next = close then pure Node.empty
          else node fuel false false
        return (key, value)
      else return (key, Node.empty)
end

/-! ### Documents -/

def defaultHandles : List (String × String) :=
  [("!", "!"), ("!!", Tag.standardStem)]

/-- The directives before a document.  One version at most, and each handle once. -/
def directives : Nat → Bool → List (String × String) → Compose (List (String × String))
  | 0, _, _ => refuse
  | fuel + 1, versioned, handles => do
      match ← peek with
      | .directive (.version major _) => do
          if versioned || major ≠ 1 then refuse
          advance
          directives fuel true handles
      | .directive (.tag handle stem) => do
          if handles.any (fun entry => entry.1 = handle) then refuse
          advance
          directives fuel versioned ((handle, stem) :: handles)
      | .directive (.unknown _) => do
          advance
          directives fuel versioned handles
      | _ => return handles

def dropDocumentEnds : Nat → Compose Unit
  | 0 => return ()
  | fuel + 1 => do
      if (← peek) = .documentEnd then
        advance
        dropDocumentEnds fuel

def setHandles (handles : List (String × String)) : Compose Unit :=
  modify (fun composer => { composer with handles := handles ++ defaultHandles })

def explicitDocument (fuel : Nat) : Compose (Option Node) := do
  dropDocumentEnds fuel
  if (← peek) = .streamEnd then return none
  else
    setHandles (← directives fuel false [])
    expect .documentStart
    match ← peek with
    | .directive _ | .documentStart | .documentEnd | .streamEnd => return some Node.empty
    | _ => return some (← node fuel true false)

/-- The node of the only document. -/
def document (fuel : Nat) : Compose (Option Node) := do
  let root ← match ← peek with
    | .directive _ | .documentStart | .streamEnd => explicitDocument fuel
    | _ => do
        setHandles []
        pure (some (← node fuel true false))
  dropDocumentEnds fuel
  if (← peek) = .streamEnd then return root else refuse

end Compose

def Node.ofText? (text : String) : Read (Option Node) := do
  let tokens ← Token.ofText text
  let fuel := 4 * tokens.length + 4
  return (← (Compose.document fuel).run { tokens := tokens }).1

end RecordSchema.Yaml
