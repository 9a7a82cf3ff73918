/-!
# The calendar

Days counted from 1 January 1970 and dates of the Gregorian calendar, extended to all years.  Years are
taken to begin in March, so that the leap day is the last day of its year.
-/

namespace Passbook

/-- A date: year, month from 1 to 12, and day of the month from 1. -/
structure Date where
  year : Int
  month : Nat
  day : Nat
deriving DecidableEq, Repr

namespace Date

/-- Every fourth year is a leap year, but of the full centuries only every fourth. -/
def isLeapYear (year : Int) : Bool :=
  year % 4 == 0 && (year % 100 != 0 || year % 400 == 0)

def daysInMonth (year : Int) (month : Nat) : Nat :=
  match month with
  | 2 => if isLeapYear year then 29 else 28
  | 4 | 6 | 9 | 11 => 30
  | _ => 31

def isValid (date : Date) : Bool :=
  1 ≤ date.month && date.month ≤ 12 && 1 ≤ date.day && date.day ≤ daysInMonth date.year date.month

/-- Days from 1 March of year 0 to 1 January 1970. -/
def epochOffset : Int := 719468

/-- Days in four hundred years. -/
def daysPerEra : Int := 146097

/-- The number of days from 1 January 1970 to a date. -/
def toDays (date : Date) : Int :=
  let year := if date.month ≤ 2 then date.year - 1 else date.year
  let monthFromMarch : Int := if date.month ≤ 2 then date.month + 9 else (date.month : Int) - 3
  let yearOfEra := year % 400
  let dayOfYear := (153 * monthFromMarch + 2) / 5 + date.day - 1
  let dayOfEra := yearOfEra * 365 + yearOfEra / 4 - yearOfEra / 100 + dayOfYear
  year / 400 * daysPerEra + dayOfEra - epochOffset

/-- The date a number of days after 1 January 1970. -/
def ofDays (days : Int) : Date :=
  let shifted := days + epochOffset
  let dayOfEra := shifted % daysPerEra
  let yearOfEra :=
    (dayOfEra - dayOfEra / 1460 + dayOfEra / 36524 - dayOfEra / 146096) / 365
  let dayOfYear := dayOfEra - (365 * yearOfEra + yearOfEra / 4 - yearOfEra / 100)
  let monthFromMarch := (5 * dayOfYear + 2) / 153
  let day := dayOfYear - (153 * monthFromMarch + 2) / 5 + 1
  let month := if monthFromMarch < 10 then monthFromMarch + 3 else monthFromMarch - 9
  let year := yearOfEra + shifted / daysPerEra * 400
  { year := if month ≤ 2 then year + 1 else year, month := month.toNat, day := day.toNat }

example : (ofDays 0, ofDays (-1), ofDays 11016) =
    (⟨1970, 1, 1⟩, ⟨1969, 12, 31⟩, ⟨2000, 2, 29⟩) := by decide

example : toDays ⟨2000, 2, 29⟩ = 11016 := by decide

end Date

end Passbook
