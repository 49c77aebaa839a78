/-!
# The Gregorian calendar

Dates of the proleptic Gregorian calendar and their numbering by days, day zero being
1970-01-01. Years are counted from March inside this module, so that the leap day is a year's last.
-/

namespace BoxOffice

/-- A calendar date. -/
structure Date where
  year : Int
  month : Nat
  day : Nat
  deriving DecidableEq, Repr

namespace Date

/-- A year with a 29 February. -/
def isLeap (year : Int) : Bool :=
  year % 4 == 0 && (year % 100 != 0 || year % 400 == 0)

/-- The number of days in a month. -/
def daysInMonth (year : Int) (month : Nat) : Nat :=
  match month with
  | 2 => if isLeap year then 29 else 28
  | 4 | 6 | 9 | 11 => 30
  | _ => 31

/-- A date that the calendar has. -/
def isValid (d : Date) : Bool :=
  1 ≤ d.month && d.month ≤ 12 && 1 ≤ d.day && d.day ≤ daysInMonth d.year d.month

/-- The days of the months before a month, counted from March (month 0) to February (month 11). -/
def daysBeforeMonth (month : Nat) : Nat :=
  (153 * month + 2) / 5

/-- The day's number, counted from 1970-01-01. -/
def dayNumber (d : Date) : Int :=
  let year : Int := if d.month ≤ 2 then d.year - 1 else d.year
  let month := (d.month + 9) % 12
  365 * year + year / 4 - year / 100 + year / 400 + daysBeforeMonth month + d.day - 719469

/-- The date of a day's number. -/
def ofDayNumber (n : Int) : Date :=
  let days := n + 719468
  let era := days / 146097
  let inEra := (days % 146097).toNat
  let century := min (inEra / 36524) 3
  let inCentury := inEra - century * 36524
  let cycle := inCentury / 1461
  let inCycle := inCentury - cycle * 1461
  let yearOfCycle := min (inCycle / 365) 3
  let inYear := inCycle - yearOfCycle * 365
  let month := (5 * inYear + 2) / 153
  let day := inYear - daysBeforeMonth month + 1
  let year : Int := era * 400 + (century * 100 + cycle * 4 + yearOfCycle : Nat)
  { year := if month ≥ 10 then year + 1 else year
    month := if month ≥ 10 then month - 9 else month + 3
    day }

end Date

end BoxOffice
