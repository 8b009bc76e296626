/-!
# The calendar

The Gregorian calendar, extended to all years; the year before year 1 is year 0.  Days are counted
from 1 January 1970.

The count goes through years that begin in March, because then the day that a leap year adds is the
last of the year and a date is a sum of independent parts: 400-year cycles of 146097 days, years in
the cycle, and months of alternating length.
-/

namespace QualityGate.Time

/-- A day of the calendar. -/
structure Date where
  year : Int
  month : Nat
  day : Nat
  deriving DecidableEq, Repr

/-- Whether a year has a day more. -/
def isLeap (year : Int) : Bool := year % 4 == 0 && (year % 100 != 0 || year % 400 == 0)

/-- The number of days of a month. -/
def daysInMonth (year : Int) (month : Nat) : Nat :=
  if month = 2 then if isLeap year then 29 else 28
  else if month = 4 ∨ month = 6 ∨ month = 9 ∨ month = 11 then 30
  else 31

/-- The first and the last year that dates are read with. -/
def yearRange : Int × Int := (-262143, 262142)

/-- Whether there is such a day. -/
def Date.isValid (date : Date) : Bool :=
  yearRange.1 ≤ date.year && date.year ≤ yearRange.2 && 1 ≤ date.month && date.month ≤ 12
    && 1 ≤ date.day && date.day ≤ daysInMonth date.year date.month

/-- Days from 1 March of year 0 to 1 January 1970. -/
def epoch : Int := 719468

/-- The days from 1 January 1970 to a date. -/
def Date.toDays (date : Date) : Int :=
  let year := if date.month ≤ 2 then date.year - 1 else date.year
  let monthFromMarch : Int := (date.month + 9) % 12
  let yearOfCycle := year % 400
  let dayOfYear := (153 * monthFromMarch + 2) / 5 + date.day - 1
  let dayOfCycle := yearOfCycle * 365 + yearOfCycle / 4 - yearOfCycle / 100 + dayOfYear
  year / 400 * 146097 + dayOfCycle - epoch

/-- The date that many days after 1 January 1970. -/
def Date.ofDays (days : Int) : Date :=
  let fromMarch := days + epoch
  let dayOfCycle := fromMarch % 146097
  let yearOfCycle :=
    (dayOfCycle - dayOfCycle / 1460 + dayOfCycle / 36524 - dayOfCycle / 146096) / 365
  let dayOfYear := dayOfCycle - (365 * yearOfCycle + yearOfCycle / 4 - yearOfCycle / 100)
  let monthFromMarch := (5 * dayOfYear + 2) / 153
  let day := dayOfYear - (153 * monthFromMarch + 2) / 5 + 1
  let month := if monthFromMarch < 10 then monthFromMarch + 3 else monthFromMarch - 9
  let year := fromMarch / 146097 * 400 + yearOfCycle + (if month ≤ 2 then 1 else 0)
  ⟨year, month.toNat, day.toNat⟩

end QualityGate.Time
