/-! The proleptic Gregorian calendar. Days are counted from 1970-01-01. Inside the
conversions a year begins in March, so that the leap day is its last day. -/
namespace RowFormula.Time

/-- A date of the calendar. Months and days count from one. -/
structure Civil where
  year : Int
  month : Nat
  day : Nat
  deriving DecidableEq

def isLeapYear (year : Int) : Bool :=
  year % 4 = 0 && (year % 100 ≠ 0 || year % 400 = 0)

def daysInMonth (year : Int) (month : Nat) : Nat :=
  match month with
  | 2 => if isLeapYear year then 29 else 28
  | 4 | 6 | 9 | 11 => 30
  | _ => 31

namespace Civil

/-- The month exists and has such a day. -/
def isValid (date : Civil) : Bool :=
  1 ≤ date.month && date.month ≤ 12 && 1 ≤ date.day && date.day ≤ daysInMonth date.year date.month

/-- The days before a month of a year that begins in March; March is month `0`. -/
def daysBefore (month : Int) : Int := (153 * month + 2) / 5

/-- The number of the day. Four hundred years always have 146097 days. -/
def toDay (date : Civil) : Int :=
  let year := if date.month ≤ 2 then date.year - 1 else date.year
  let month : Int := ((date.month : Int) + 9) % 12
  let inCycle := year % 400
  let inYear := daysBefore month + date.day - 1
  year / 400 * 146097 + (inCycle * 365 + inCycle / 4 - inCycle / 100 + inYear) - 719468

/-- The date of a day. -/
def ofDay (day : Int) : Civil :=
  let fromMarch := day + 719468
  let inCycle := fromMarch % 146097
  let year := (inCycle - inCycle / 1460 + inCycle / 36524 - inCycle / 146096) / 365
  let inYear := inCycle - (365 * year + year / 4 - year / 100)
  let month := (5 * inYear + 2) / 153
  let calendarMonth := if month < 10 then month + 3 else month - 9
  { year := fromMarch / 146097 * 400 + year + (if calendarMonth ≤ 2 then 1 else 0)
    month := calendarMonth.toNat
    day := (inYear - daysBefore month + 1).toNat }

/-- The date some months later or earlier. The day stays unless the month is too short
for it; then it is the last day of the month. -/
def addMonths (date : Civil) (months : Int) : Civil :=
  let total := date.year * 12 + ((date.month : Int) - 1) + months
  let year := total / 12
  let month := (total % 12).toNat + 1
  ⟨year, month, min date.day (daysInMonth year month)⟩

end Civil

/-- The day of the week, Sunday being `0`. The first of January 1970 was a Thursday. -/
def weekday (day : Int) : Nat := ((day + 4) % 7).toNat

end RowFormula.Time
