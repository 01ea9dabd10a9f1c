import RecordSchema.Value.Basic

namespace RecordSchema

/-!
Which days and moments there are.
-/

namespace Calendar

def isLeap (year : Nat) : Bool :=
  year % 4 = 0 && (year % 100 ≠ 0 || year % 400 = 0)

def monthLength (year month : Nat) : Nat :=
  if month = 2 then (if isLeap year then 29 else 28)
  else if [4, 6, 9, 11].contains month then 30
  else 31

/-- Whether there is such a day; years count from one. -/
def holds (year month day : Nat) : Bool :=
  1 ≤ year && 1 ≤ month && month ≤ 12 && 1 ≤ day && day ≤ monthLength year month

def zoneBound : Nat := 24 * 60

end Calendar

def Moment.isValid (moment : Moment) : Bool :=
  Calendar.holds moment.year moment.month moment.day && moment.hour < 24 && moment.minute < 60
    && moment.second < 60
    && (match moment.zone with
      | some minutes => minutes.natAbs < Calendar.zoneBound
      | none => true)

end RecordSchema
