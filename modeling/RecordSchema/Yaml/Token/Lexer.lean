import RecordSchema.Yaml.Token.Tag

namespace RecordSchema.Yaml

/-!
Tokens of a text.  Indentation opens and closes blocks, and a key is recognised by the
colon after it, so the lexer remembers where a key may have started and puts the tokens of
the key in front once the colon is found.
-/

/-- A place where a key may have started: the number of tokens before it, whether only a
key can stand there, and its position. -/
structure Candidate where
  tokens : Nat
  required : Bool
  index : Nat
  line : Nat
  column : Nat

/-- The state of the lexer.  Candidates are kept by the depth of flow collections. -/
structure Lexer where
  cursor : Cursor
  tokens : List Token := []
  depth : Nat := 0
  indent : Int := -1
  indents : List Int := []
  keyAllowed : Bool := true
  candidates : List (Nat × Candidate) := []

namespace Lexer

def push (lexer : Lexer) (token : Token) : Lexer :=
  { lexer with tokens := lexer.tokens ++ [token] }

def inFlow (lexer : Lexer) : Bool :=
  lexer.depth ≠ 0

def candidate? (lexer : Lexer) : Option Candidate :=
  (lexer.candidates.find? (fun entry => entry.1 = lexer.depth)).map Prod.snd

def dropCandidate (lexer : Lexer) : Lexer :=
  { lexer with candidates := lexer.candidates.filter (fun entry => entry.1 ≠ lexer.depth) }

/-- Gives up the candidate of this depth, unless only a key can stand there. -/
def forgetCandidate (lexer : Lexer) : Read Lexer := do
  match lexer.candidate? with
  | some candidate => require (!candidate.required)
  | none => pure ()
  return lexer.dropCandidate

def longestKey : Nat := 1024

def dropStale (lexer : Lexer) : Read Lexer := do
  let stale (candidate : Candidate) : Bool :=
    candidate.line ≠ lexer.cursor.line || longestKey < lexer.cursor.index - candidate.index
  require (lexer.candidates.all (fun entry => !(stale entry.2 && entry.2.required)))
  return { lexer with candidates := lexer.candidates.filter (fun entry => !stale entry.2) }

def saveCandidate (lexer : Lexer) : Read Lexer := do
  if lexer.keyAllowed then
    let required := !lexer.inFlow && lexer.indent = lexer.cursor.column
    let lexer ← lexer.forgetCandidate
    let cursor := lexer.cursor
    let candidate : Candidate :=
      ⟨lexer.tokens.length, required, cursor.index, cursor.line, cursor.column⟩
    return { lexer with candidates := (lexer.depth, candidate) :: lexer.candidates }
  else return lexer

def closeBlocks (column : Int) : Nat → Lexer → Lexer
  | 0, lexer => lexer
  | fuel + 1, lexer =>
      if column < lexer.indent then
        closeBlocks column fuel
          ({ lexer with
            indent := lexer.indents.headD (-1)
            indents := lexer.indents.drop 1 }.push .blockEnd)
      else lexer

/-- Closes blocks; within flow collections indentation does not count. -/
def unwind (lexer : Lexer) (column : Int) : Lexer :=
  if lexer.inFlow then lexer else closeBlocks column (lexer.indents.length + 1) lexer

def openBlock (lexer : Lexer) (column : Int) : Option Lexer :=
  if lexer.indent < column then
    some { lexer with indent := column, indents := lexer.indent :: lexer.indents }
  else none

def startBlock (lexer : Lexer) (token : Token) : Lexer :=
  match lexer.openBlock lexer.cursor.column with
  | some opened => opened.push token
  | none => lexer

def insertAt (position : Nat) (token : Token) (tokens : List Token) : List Token :=
  tokens.take position ++ token :: tokens.drop position

def skip (lexer : Lexer) (count : Nat) : Lexer :=
  { lexer with cursor := lexer.cursor.skip count }

def dropGaps : Nat → Lexer → Lexer
  | 0, lexer => lexer
  | fuel + 1, lexer =>
      let cursor := lexer.cursor.dropSpaces.dropComment
      if isBreak cursor.current then
        dropGaps fuel
          { lexer with
            cursor := cursor.lineBreak.2
            keyAllowed := lexer.keyAllowed || !lexer.inFlow }
      else { lexer with cursor := cursor }

/-! ### One token -/

def endBlocks (lexer : Lexer) : Read Lexer := do
  let lexer ← (lexer.unwind (-1)).forgetCandidate
  return { lexer with keyAllowed := false }

def marker (lexer : Lexer) (token : Token) : Read Lexer := do
  return ((← lexer.endBlocks).skip 3).push token

def flowStart (lexer : Lexer) (token : Token) : Read Lexer := do
  let lexer ← lexer.saveCandidate
  return ({ lexer with depth := lexer.depth + 1, keyAllowed := true }.skip 1).push token

/-- The end of a flow collection.  One that was never started is left for the grammar
to refuse. -/
def flowEnd (lexer : Lexer) (token : Token) : Read Lexer := do
  let lexer ← lexer.forgetCandidate
  require lexer.inFlow
  return ({ lexer with depth := lexer.depth - 1, keyAllowed := false }.skip 1).push token

def flowEntry (lexer : Lexer) : Read Lexer := do
  let lexer ← lexer.forgetCandidate
  return ({ lexer with keyAllowed := true }.skip 1).push .flowEntry

def blockEntry (lexer : Lexer) : Read Lexer := do
  require (lexer.inFlow || lexer.keyAllowed)
  let lexer := if lexer.inFlow then lexer else lexer.startBlock .blockSequenceStart
  let lexer ← lexer.forgetCandidate
  return ({ lexer with keyAllowed := true }.skip 1).push .blockEntry

def explicitKey (lexer : Lexer) : Read Lexer := do
  require (lexer.inFlow || lexer.keyAllowed)
  let lexer := if lexer.inFlow then lexer else lexer.startBlock .blockMappingStart
  let lexer ← lexer.forgetCandidate
  return ({ lexer with keyAllowed := !lexer.inFlow }.skip 1).push .key

def simpleValue (lexer : Lexer) (candidate : Candidate) : Lexer :=
  let lexer := lexer.dropCandidate
  let lexer := { lexer with tokens := insertAt candidate.tokens .key lexer.tokens }
  let lexer :=
    if lexer.inFlow then lexer
    else
      match lexer.openBlock candidate.column with
      | some opened =>
          { opened with tokens := insertAt candidate.tokens .blockMappingStart opened.tokens }
      | none => lexer
  { lexer with keyAllowed := false }

def complexValue (lexer : Lexer) : Read Lexer := do
  require (lexer.inFlow || lexer.keyAllowed)
  let lexer := if lexer.inFlow then lexer else lexer.startBlock .blockMappingStart
  let lexer := { lexer with keyAllowed := !lexer.inFlow }
  lexer.forgetCandidate

def value (lexer : Lexer) : Read Lexer := do
  let lexer ← match lexer.candidate? with
    | some candidate => pure (lexer.simpleValue candidate)
    | none => lexer.complexValue
  return (lexer.skip 1).push .value

def keyLike (lexer : Lexer) (read : Cursor → Read (Token × Cursor)) : Read Lexer := do
  let lexer ← lexer.saveCandidate
  let (token, cursor) ← read lexer.cursor
  return { lexer with keyAllowed := false, cursor := cursor }.push token

def blockScalar (lexer : Lexer) (folded : Bool) : Read Lexer := do
  let lexer ← { lexer with keyAllowed := true }.forgetCandidate
  let (text, cursor) ← Block.read folded lexer.indent lexer.cursor
  return { lexer with cursor := cursor }.push (.scalar (String.ofList text) .block)

def plainScalar (lexer : Lexer) : Read Lexer := do
  let lexer ← lexer.saveCandidate
  let cursor := lexer.cursor
  let (text, ended, cursor) :=
    Plain.read lexer.inFlow (lexer.indent + 1) cursor.bound cursor [] [] false
  return { lexer with keyAllowed := ended, cursor := cursor }.push
    (.scalar (String.ofList text) .plain)

def readAnchor (cursor : Cursor) : Read (Token × Cursor) := do
  let (name, cursor) ← Name.anchor cursor
  return (.anchor name, cursor)

def readReference (cursor : Cursor) : Read (Token × Cursor) := do
  let (name, cursor) ← Name.anchor cursor
  return (.reference name, cursor)

def readTag (cursor : Cursor) : Read (Token × Cursor) := do
  let (tag, cursor) ← TagText.read cursor
  return (.tag tag, cursor)

def readQuoted (double : Bool) (cursor : Cursor) : Read (Token × Cursor) := do
  let (text, cursor) ← Quotes.read double cursor
  return (.scalar (String.ofList text) .quoted, cursor)

def directive (lexer : Lexer) : Read Lexer := do
  let lexer ← lexer.endBlocks
  let (directive, cursor) ← Directive.read lexer.cursor
  return { lexer with cursor := cursor }.push (.directive directive)

def indicators : List Char :=
  ['-', '?', ':', ',', '[', ']', '{', '}', '#', '&', '*', '!', '|', '>', '\'', '"', '%', '@',
    Char.ofNat 0x60]

def startsPlain (lexer : Lexer) : Bool :=
  let c := lexer.cursor.current
  let next := lexer.cursor.peek 1
  (!isGap c && !indicators.contains c)
    || (!isGap next && (c = '-' || (!lexer.inFlow && (c = '?' || c = ':'))))

/-- The token at the cursor; no text is left out. -/
def token (lexer : Lexer) : Read Lexer :=
  let cursor := lexer.cursor
  let c := cursor.current
  let spaced := isGap (cursor.peek 1)
  if c = '%' ∧ cursor.column = 0 then lexer.directive
  else if cursor.column = 0 ∧ cursor.atMarker '-' then lexer.marker .documentStart
  else if cursor.column = 0 ∧ cursor.atMarker '.' then lexer.marker .documentEnd
  else if c = '[' then lexer.flowStart .flowSequenceStart
  else if c = '{' then lexer.flowStart .flowMappingStart
  else if c = ']' then lexer.flowEnd .flowSequenceEnd
  else if c = '}' then lexer.flowEnd .flowMappingEnd
  else if c = ',' then lexer.flowEntry
  else if c = '-' ∧ spaced then lexer.blockEntry
  else if c = '?' ∧ (lexer.inFlow ∨ spaced) then lexer.explicitKey
  else if c = ':' ∧ (lexer.inFlow ∨ spaced) then lexer.value
  else if c = '*' then lexer.keyLike readReference
  else if c = '&' then lexer.keyLike readAnchor
  else if c = '!' then lexer.keyLike readTag
  else if c = '|' ∧ !lexer.inFlow then lexer.blockScalar false
  else if c = '>' ∧ !lexer.inFlow then lexer.blockScalar true
  else if c = '\'' then lexer.keyLike (readQuoted false)
  else if c = '"' then lexer.keyLike (readQuoted true)
  else if lexer.startsPlain then lexer.plainScalar
  else malformed

def run : Nat → Lexer → Read (List Token)
  | 0, _ => malformed
  | fuel + 1, lexer => do
      let lexer ← (dropGaps lexer.cursor.bound lexer).dropStale
      let lexer := lexer.unwind lexer.cursor.column
      if lexer.cursor.rest.isEmpty then
        let lexer ← lexer.endBlocks
        return lexer.tokens ++ [.streamEnd]
      else
        let lexer ← lexer.token
        run fuel lexer

end Lexer

def Token.ofText (text : String) : Read (List Token) := do
  let chars := text.toList
  require (chars.all isAllowed)
  let start : Cursor := { rest := chars }
  let start := if start.current = byteOrderMark then start.advance else start
  Lexer.run (2 * start.bound) { cursor := start }

end RecordSchema.Yaml
