import RecordSchema.Value.Calendar
import RecordSchema.Yaml.Plain

namespace RecordSchema.Yaml

/-!
Dates and moments.  The year has four digits, the minutes and seconds two, all else one or
two; the time of day, its fraction and its zone may be left out.
-/

namespace Timestamp

abbrev Reader := StateT (List Char) Option

def digits (least most : Nat) : Reader Nat := do
  let found := ((← get).take most).takeWhile Char.isDigit
  if found.length < least then failure
  else
    modify (List.drop found.length)
    return ofDigits found

def mark (isMark : Char → Bool) : Reader Char := do
  match ← get with
  | c :: rest =>
      if isMark c then
        set rest
        return c
      else failure
  | [] => failure

def isBlankChar (c : Char) : Bool := c = ' ' || c = '\t'

def separator : Reader Unit := do
  let c ← mark (fun c => c = 'T' || c = 't' || isBlankChar c)
  if isBlankChar c then modify (List.dropWhile isBlankChar)

/-- Millionths from the digits after the point; further digits do not count. -/
def millionths (digits : List Char) : Nat :=
  let counted := digits.take 6
  ofDigits counted * Nat.pow 10 (6 - counted.length)

def fraction : Reader Nat := do
  match ← get with
  | '.' :: rest => do
      set (rest.dropWhile Char.isDigit)
      return millionths (rest.takeWhile Char.isDigit)
  | _ => return 0

def zoneMinutes : Reader Nat := do
  match ← get with
  | ':' :: rest => do
      set rest
      digits 2 2
  | _ => return 0

def zone : Reader (Option Int) := do
  match (← get).dropWhile isBlankChar with
  | 'Z' :: rest => do
      set rest
      return some 0
  | c :: rest =>
      if c = '+' ∨ c = '-' then
        set rest
        let hours ← digits 1 2
        let minutes := 60 * hours + (← zoneMinutes)
        return some (if c = '-' then -(minutes : Int) else minutes)
      else return none
  | [] => return none

def clock (year month day : Nat) : Reader Moment := do
  separator
  let hour ← digits 1 2
  let _ ← mark (· = ':')
  let minute ← digits 2 2
  let _ ← mark (· = ':')
  let second ← digits 2 2
  let microsecond ← fraction
  return ⟨year, month, day, hour, minute, second, microsecond, ← zone⟩

def value : Reader (Value × Bool) := do
  let year ← digits 4 4
  let _ ← mark (· = '-')
  let month ← digits 1 2
  let _ ← mark (· = '-')
  let day ← digits 1 2
  if (← get).isEmpty then return (.date year month day, Calendar.holds year month day)
  else
    let moment ← clock year month day
    return (.moment moment, moment.isValid)

/-- What a text stands for as a timestamp.  One that does not look like it has no year. -/
def read (text : String) : Read Value :=
  match value.run (Spelling.dropLastBreak text).toList with
  | some ((value, true), []) => .ok value
  | some ((_, false), []) => .error (.fault .value)
  | _ => .error (.fault (.attribute "year"))

end Timestamp

end RecordSchema.Yaml
