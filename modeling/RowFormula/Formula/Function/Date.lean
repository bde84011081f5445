import RowFormula.Formula.Function
import RowFormula.Formula.Function.Argument
import RowFormula.Time.Unit

/-! The date functions. Dates are instants of universal time. -/
namespace RowFormula.DateFunction

open Time (Instant TimeUnit Span)

/-- A unit that may be left out. -/
def unitOr (default : TimeUnit) (args : List Value) (index : Nat) : Outcome TimeUnit :=
  if index < args.length then
    match TimeUnit.ofName? (Argument.text args index) with
    | some unit => .ok unit
    | none => .error .wrongType
  else .ok default

/-- Shifts are shorter than this many milliseconds. -/
def maxShift : Float := 1e17

/-- The instant some units later or earlier. Units of fixed length may be counted in
fractions, down to the millisecond; months, quarters and years are counted whole. -/
def shift? (t : Instant) (count : Float) (unit : TimeUnit) : Option Instant :=
  match unit.span with
  | .millis n =>
    let millis := Number.round .truncate (count * Number.ofInt n)
    if millis.abs < maxShift then t.addNanos? (Number.toInt64 millis * 1000000) else none
  | .months n => t.addMonths? (Number.toInt64 count * n)

/-- The whole units from `start` to `finish`, cut toward zero. -/
def unitsBetween (finish start : Instant) (unit : TimeUnit) : Float :=
  match unit.span with
  | .millis n =>
    Number.round .truncate (Number.ofInt (finish.millisSince start) / Number.ofInt n)
  | .months n => Number.ofInt ((start.monthsUntil finish).tdiv n)

/-- The value of a date function under a clock. -/
def apply (now : Instant) (f : DateFunction) (args : List Value) : Outcome Value :=
  match f with
  | dateAdd => do
    let t ← Argument.date args 0
    let count ← Argument.number args 1
    let unit ← unitOr .days args 2
    match shift? t count unit with
    | some shifted => .ok (.date shifted)
    | none => .error .wrongType
  | dateDiff => do
    let finish ← Argument.date args 0
    let start ← Argument.date args 1
    let unit ← unitOr .seconds args 2
    return .number (unitsBetween finish start unit)
  | dateFormat => do
    let t ← Argument.date args 0
    if args.length < 2 then return .text t.iso
    else return .text (t.format (Argument.text args 1))
  | year => do return .number (Number.ofInt (← Argument.date args 0).civil.year)
  | month => do return .number (Number.ofInt (← Argument.date args 0).civil.month)
  | day => do return .number (Number.ofInt (← Argument.date args 0).civil.day)
  | .now => .ok (.date now)
  | today => .ok (.date now.startOfDay)

end RowFormula.DateFunction
