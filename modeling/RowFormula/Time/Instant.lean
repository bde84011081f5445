import RowFormula.Time.Civil

/-! Instants of universal time. An instant is a second of a day with nanoseconds; the
nanoseconds reach beyond one second only inside a leap second, which is a continued
last second of its minute. -/
namespace RowFormula.Time

/-- The first day of the year -262143. -/
def firstDay : Int := -96465292

/-- The last day of the year 262142. -/
def lastDay : Int := 95026236

theorem firstDay_eq : (Civil.mk (-262143) 1 1).toDay = firstDay := by decide

theorem lastDay_eq : (Civil.mk 262142 12 31).toDay = lastDay := by decide

/-- A billion nanoseconds. -/
def nanosPerSecond : Nat := 1000000000

structure Instant where
  day : Int
  second : Nat
  nanos : Nat
  firstDay_le : firstDay ≤ day
  le_lastDay : day ≤ lastDay
  second_lt : second < 86400
  nanos_lt : nanos < 2 * nanosPerSecond
  leap : nanosPerSecond ≤ nanos → second % 60 = 59
  deriving DecidableEq

namespace Instant

/-- The instant with these parts, none where there is no such instant. -/
def make? (day : Int) (second nanos : Nat) : Option Instant :=
  if h : firstDay ≤ day ∧ day ≤ lastDay ∧ second < 86400 ∧ nanos < 2 * nanosPerSecond ∧
      (nanosPerSecond ≤ nanos → second % 60 = 59) then
    some ⟨day, second, nanos, h.1, h.2.1, h.2.2.1, h.2.2.2.1, h.2.2.2.2⟩
  else none

/-- The parts of an instant make it again. -/
theorem make?_parts (t : Instant) : make? t.day t.second t.nanos = some t := by
  simp only [make?, t.firstDay_le, t.le_lastDay, t.second_lt, t.nanos_lt, true_and]
  exact dif_pos t.leap

/-- The start of the epoch. -/
def epoch : Instant := ⟨0, 0, 0, by decide, by decide, by decide, by decide, by decide⟩

/-- Inside the extra second that continues the last second of a minute. -/
def inLeapSecond (t : Instant) : Bool := decide (nanosPerSecond ≤ t.nanos)

/-- Seconds since the epoch. A leap second counts as the second that it continues. -/
def epochSecond (t : Instant) : Int := t.day * 86400 + t.second

/-- Earlier instants come first; a leap second comes after the second that it continues. -/
def order (a b : Instant) : Ordering :=
  (compare a.day b.day).then ((compare a.second b.second).then (compare a.nanos b.nanos))

def isBefore (a b : Instant) : Bool := order a b = .lt

/-- The date of the instant. -/
def civil (t : Instant) : Civil := Civil.ofDay t.day

def hour (t : Instant) : Nat := t.second / 3600

def minute (t : Instant) : Nat := t.second / 60 % 60

/-- The second of the minute, never above 59. -/
def secondOfMinute (t : Instant) : Nat := t.second % 60

/-- Milliseconds of the second, above 999 inside a leap second. -/
def millis (t : Instant) : Nat := t.nanos / 1000000

/-- Midnight of the day. -/
def startOfDay (t : Instant) : Instant :=
  ⟨t.day, 0, 0, t.firstDay_le, t.le_lastDay, by decide, by decide, by decide⟩

/-- The instant outside leap seconds with a given second and nanosecond count. -/
def ofEpochSecond? (second : Int) (nanos : Nat) : Option Instant :=
  make? (second / 86400) (second % 86400).toNat nanos

/-- The instant a number of nanoseconds after the epoch, leap seconds not counted. -/
def ofEpochNanos? (n : Int) : Option Instant :=
  ofEpochSecond? (n / nanosPerSecond) (n % nanosPerSecond).toNat

/-- The instant a number of milliseconds after the epoch, leap seconds not counted. -/
def ofEpochMillis? (n : Int) : Option Instant :=
  ofEpochSecond? (n / 1000) ((n % 1000).toNat * 1000000)

/-- Milliseconds since the epoch, what is below a millisecond dropped downward. -/
def epochMillis (t : Instant) : Int := t.epochSecond * 1000 + t.millis

/-- The instant some nanoseconds later or earlier. From inside a leap second the rest of
that second, or what has passed of it, is really there. -/
def addNanos? (t : Instant) (delta : Int) : Option Instant :=
  if t.inLeapSecond then
    let passed := (t.nanos : Int) - nanosPerSecond
    if 0 ≤ passed + delta ∧ passed + delta < nanosPerSecond then
      make? t.day t.second (t.nanos + delta).toNat
    else
      let base := if delta < 0 then t.epochSecond + 1 else t.epochSecond
      ofEpochNanos? (base * nanosPerSecond + passed + delta)
  else ofEpochNanos? (t.epochSecond * nanosPerSecond + t.nanos + delta)

/-- The nanoseconds from `b` to `a`. A leap second lengthens the time to later seconds of
the same day and to no other. -/
def nanosSince (a b : Instant) : Int :=
  let extra : Int :=
    if b.second < a.second ∧ b.inLeapSecond then 1
    else if a.second < b.second ∧ a.inLeapSecond then -1
    else 0
  ((a.day - b.day) * 86400 + ((a.second : Int) - b.second) + extra) * nanosPerSecond +
    ((a.nanos : Int) - b.nanos)

/-- The whole milliseconds from `b` to `a`, cut toward zero. -/
def millisSince (a b : Instant) : Int := (a.nanosSince b).tdiv 1000000

/-- The instant some months later or earlier, at the same time of day. -/
def addMonths? (t : Instant) (months : Int) : Option Instant :=
  make? (t.civil.addMonths months).toDay t.second t.nanos

/-- The whole months from `start` to `finish`, cut toward zero. A month that has not
fully passed does not count. -/
def monthsUntil (start finish : Instant) : Int :=
  let first := start.civil
  let last := finish.civil
  let months := (last.year - first.year) * 12 + ((last.month : Int) - first.month)
  match start.addMonths? months with
  | some shifted =>
    if 0 < months ∧ finish.isBefore shifted then months - 1
    else if months < 0 ∧ shifted.isBefore finish then months + 1
    else months
  | none => months

end Instant

end RowFormula.Time
