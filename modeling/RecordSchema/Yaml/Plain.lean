import RecordSchema.Text.Pattern
import RecordSchema.Yaml.Token.Scalar

namespace RecordSchema.Yaml

/-!
What plain scalars mean: truth values, numbers, null, dates and marks are recognised by
their spelling, and everything else is text.
-/

inductive Tag where
  | null
  | bool
  | int
  | float
  | binary
  | timestamp
  | omap
  | pairs
  | set
  | str
  | seq
  | map
  | merge
  | value
  | unknown (name : String)
deriving DecidableEq, Repr

namespace Tag

def standardStem : String := "tag:yaml.org,2002:"

def standard : List (String × Tag) :=
  [("null", .null), ("bool", .bool), ("int", .int), ("float", .float), ("binary", .binary),
    ("timestamp", .timestamp), ("omap", .omap), ("pairs", .pairs), ("set", .set), ("str", .str),
    ("seq", .seq), ("map", .map), ("merge", .merge), ("value", .value)]

def ofName (name : String) : Tag :=
  match standard.find? (fun entry => standardStem ++ entry.1 = name) with
  | some entry => entry.2
  | none => .unknown name

end Tag

namespace Spelling

open Pattern

def truths : List String :=
  ["yes", "Yes", "YES", "true", "True", "TRUE", "on", "On", "ON"]

def falsehoods : List String :=
  ["no", "No", "NO", "false", "False", "FALSE", "off", "Off", "OFF"]

def nulls : List String := ["", "~", "null", "Null", "NULL"]

def isDigitOrBar (c : Char) : Bool := c.isDigit || c = '_'

def digit : Pattern := one Char.isDigit

def sign : Pattern := optional (one (fun c => c = '-' || c = '+'))

def digits : Pattern := andThen digit (many isDigitOrBar)

def leadingDigits : Pattern :=
  andThen (one (fun c => c.isDigit && c ≠ '0')) (many isDigitOrBar)

def exponent : Pattern :=
  optional (all [one (fun c => c = 'e' || c = 'E'), one (fun c => c = '-' || c = '+'),
    Pattern.some Char.isDigit])

def sexagesimals : Pattern := fun chars =>
  repeated (all [char ':', optional (one (fun c => c.isDigit && c ≤ '5')), digit]) chars.length
    chars

/-- A float has a point; an exponent has a sign. -/
def float : Pattern :=
  any [all [sign, digits, char '.', many isDigitOrBar, exponent],
    all [char '.', digits, exponent],
    all [sign, digits, sexagesimals, char '.', many isDigitOrBar],
    all [sign, any [word ".inf", word ".Inf", word ".INF"]],
    any [word ".nan", word ".NaN", word ".NAN"]]

def int : Pattern :=
  andThen sign
    (any [andThen (word "0b") (Pattern.some (fun c => c = '0' || c = '1' || c = '_')),
      andThen (char '0') (Pattern.some (fun c => ('0' ≤ c && c ≤ '7') || c = '_')),
      char '0',
      leadingDigits,
      andThen (word "0x") (Pattern.some (fun c => Quotes.isHexDigit c || c = '_')),
      andThen leadingDigits sexagesimals])

def digitPair : Pattern := andThen digit digit

def digitOrTwo : Pattern := andThen digit (optional digit)

def blanks : Pattern := many (fun c => c = ' ' || c = '\t')

def zone : Pattern :=
  optional (andThen blanks
    (orElse (char 'Z')
      (all [one (fun c => c = '-' || c = '+'), digitOrTwo,
        optional (andThen (char ':') digitPair)])))

def clock : Pattern :=
  all [orElse (one (fun c => c = 'T' || c = 't')) (Pattern.some (fun c => c = ' ' || c = '\t')),
    digitOrTwo, char ':', digitPair, char ':', digitPair,
    optional (andThen (char '.') (many Char.isDigit)), zone]

def calendar : Pattern :=
  all [digitPair, digitPair, char '-', digitOrTwo, char '-', digitOrTwo]

def timestamp : Pattern :=
  any [all [digitPair, digitPair, char '-', digitPair, char '-', digitPair],
    andThen calendar clock]

def dropLastBreak (text : String) : String :=
  match text.toList.reverse with
  | '\n' :: rest => String.ofList rest.reverse
  | _ => text

def tagOf (spelling : String) : Tag :=
  let text := if spelling = "\n" then spelling else dropLastBreak spelling
  if truths.contains text || falsehoods.contains text then .bool
  else if float.fits text then .float
  else if int.fits text then .int
  else if text = "<<" then .merge
  else if nulls.contains text then .null
  else if timestamp.fits text then .timestamp
  else if text = "=" then .value
  else .str

end Spelling

end RecordSchema.Yaml
