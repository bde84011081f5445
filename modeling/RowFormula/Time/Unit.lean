import RowFormula.Time.Instant
import RowFormula.Text.Case

/-! Units of time. Units up to weeks have a fixed length; months, quarters and years
are counted on the calendar. -/
namespace RowFormula.Time

/-- A unit of time. -/
inductive TimeUnit where
  | milliseconds | seconds | minutes | hours | days | weeks | months | quarters | years
  deriving DecidableEq

/-- The length of a unit. -/
inductive Span where
  | millis (n : Nat)
  | months (n : Nat)
  deriving DecidableEq

namespace TimeUnit

def span : TimeUnit → Span
  | milliseconds => .millis 1
  | seconds => .millis 1000
  | minutes => .millis 60000
  | hours => .millis 3600000
  | days => .millis 86400000
  | weeks => .millis 604800000
  | months => .months 1
  | quarters => .months 3
  | years => .months 12

/-- The names of each unit, in lower case. -/
def names : List (TimeUnit × List String) :=
  [(milliseconds, ["ms", "millisecond", "milliseconds"]),
   (seconds, ["s", "sec", "secs", "second", "seconds"]),
   (minutes, ["m", "min", "mins", "minute", "minutes"]),
   (hours, ["h", "hr", "hrs", "hour", "hours"]),
   (days, ["d", "day", "days"]),
   (weeks, ["w", "wk", "week", "weeks"]),
   (months, ["mo", "mon", "month", "months"]),
   (quarters, ["q", "quarter", "quarters"]),
   (years, ["y", "yr", "yrs", "year", "years"])]

/-- The unit of a name in any case. Case counts for one letter alone: a capital `M` means
months and a small one minutes. -/
def ofName? (name : String) : Option TimeUnit :=
  let name := Text.trim name
  if name = "M" then some months
  else (names.find? fun entry => (Text.lower name) ∈ entry.2).map (·.1)

end TimeUnit

end RowFormula.Time
