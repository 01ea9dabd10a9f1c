import RecordSchema.Text.Utf8
import RecordSchema.Yaml.Token
import RecordSchema.Yaml.Token.Scalar

namespace RecordSchema.Yaml

/-!
Reading anchors, tags and directives.
-/

namespace Name

def punctuation : List Char := ['?', ':', ',', ']', '}', '%', '@', Char.ofNat 0x60]

def anchor (cursor : Cursor) : Read (String × Cursor) := do
  let (name, cursor) := cursor.advance.takeWhile isWordChar
  require (!name.isEmpty)
  require (isGap cursor.current || punctuation.contains cursor.current)
  return (String.ofList name, cursor)

end Name

namespace TagText

def uriPunctuation : List Char :=
  ['-', ';', '/', '?', ':', '@', '&', '=', '+', '$', ',', '_', '.', '!', '~', '*', '\'', '(',
    ')', '[', ']', '%']

def isUriChar (c : Char) : Bool :=
  c.isAlphanum || uriPunctuation.contains c

def uriBytes : Nat → Cursor → List UInt8 → Read (List UInt8 × Cursor)
  | 0, cursor, found => return (found, cursor)
  | fuel + 1, cursor, found =>
      if cursor.current = '%' then do
        let digits := cursor.advance.rest.take 2
        require (digits.length = 2 && digits.all Quotes.isHexDigit)
        uriBytes fuel (cursor.skip 3) (found ++ [UInt8.ofNat (Quotes.ofHexDigits digits)])
      else return (found, cursor)

def uriText : Nat → Cursor → List Char → Read (List Char × Cursor)
  | 0, cursor, found => return (found, cursor)
  | fuel + 1, cursor, found =>
      if cursor.current = '%' then do
        let (bytes, cursor) ← uriBytes cursor.bound cursor []
        match textOfUtf8? bytes with
        | some text => uriText fuel cursor (found ++ text.toList)
        | none => malformed
      else if isUriChar cursor.current then
        uriText fuel cursor.advance (found ++ [cursor.current])
      else return (found, cursor)

def uri (cursor : Cursor) : Read (String × Cursor) := do
  let (text, after) ← uriText cursor.bound cursor []
  require (after.index ≠ cursor.index)
  return (String.ofList text, after)

def handle (cursor : Cursor) : Read (String × Cursor) := do
  require (cursor.current = '!')
  let start := cursor.advance
  if start.current = ' ' then return ("!", start)
  else
    let (word, cursor) := start.takeWhile isWordChar
    require (cursor.current = '!')
    return (String.ofList ('!' :: word ++ ['!']), cursor.advance)

def hasHandle (cursor : Cursor) : Bool :=
  (cursor.rest.takeWhile (fun c => !isSpaceOrBreak c)).contains '!'

def read (cursor : Cursor) : Read (TagText × Cursor) := do
  let after := cursor.advance
  let (tag, cursor) ←
    if after.current = '<' then do
      let (name, cursor) ← uri after.advance
      require (cursor.current = '>')
      pure (.verbatim name, cursor.advance)
    else if isGap after.current then pure (.verbatim "!", after)
    else if hasHandle after then do
      let (handle, cursor) ← handle cursor
      let (suffix, cursor) ← uri cursor
      pure (.handled handle suffix, cursor)
    else do
      let (suffix, cursor) ← uri after
      pure (.handled "!" suffix, cursor)
  require (isSpaceOrBreak cursor.current)
  return (tag, cursor)

end TagText

namespace Directive

def decimal (cursor : Cursor) : Read (Nat × Cursor) := do
  let (digits, cursor) := cursor.takeWhile Char.isDigit
  require (!digits.isEmpty)
  return (ofDigits digits, cursor)

def versionNumbers (cursor : Cursor) : Read (Directive × Cursor) := do
  let (major, cursor) ← decimal cursor.dropSpaces
  require (cursor.current = '.')
  let (minor, cursor) ← decimal cursor.advance
  require (isSpaceOrBreak cursor.current)
  return (.version major minor, cursor)

def tagStem (cursor : Cursor) : Read (Directive × Cursor) := do
  let (handle, cursor) ← TagText.handle cursor.dropSpaces
  require (cursor.current = ' ')
  let (stem, cursor) ← TagText.uri cursor.dropSpaces
  require (isSpaceOrBreak cursor.current)
  return (.tag handle stem, cursor)

def read (cursor : Cursor) : Read (Directive × Cursor) := do
  let (name, cursor) := cursor.advance.takeWhile isWordChar
  require (!name.isEmpty)
  require (isSpaceOrBreak cursor.current)
  let (directive, cursor) ←
    if name = "YAML".toList then versionNumbers cursor
    else if name = "TAG".toList then tagStem cursor
    else pure (.unknown (String.ofList name), cursor.dropWhile (fun c => !isBreakOrEnd c))
  return (directive, ← cursor.endLine)

end Directive

end RecordSchema.Yaml
