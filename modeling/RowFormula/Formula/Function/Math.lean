import RowFormula.Formula.Function
import RowFormula.Formula.Function.Argument
import RowFormula.Number.FixedPoint

/-! The functions on numbers. -/
namespace RowFormula.MathFunction

open RowFormula.Number (Rounding isZero)

/-- The distance from one to the next double. -/
def epsilon : Float := 2.220446049250313e-16

/-- The nearest multiple of `unit` in the direction of a rounding rule. A quotient that
misses a whole number by noise alone counts as that number. The sign of the unit
does not matter, and multiples of zero are zero. -/
def roundToMultiple (rule : Rounding) (x unit : Float) : Float :=
  let unit := unit.abs
  if isZero unit then 0
  else
    let quotient := x / unit
    let nearest := Number.round .nearest quotient
    if (quotient - nearest).abs ≤ quotient.abs * 4 * epsilon then nearest * unit
    else Number.round rule quotient * unit

/-- The remainder with the sign of the divisor. -/
def modulo (x divisor : Float) : Outcome Float :=
  if isZero divisor then .error .divisionByZero
  else .ok (x - divisor * Number.round .floor (x / divisor))

/-- The sum from left to right. The sum of nothing is the negative zero. -/
def total (xs : List Float) : Float := xs.foldl (· + ·) (-0.0)

def least (xs : List Float) : Float :=
  xs.foldl (fun m x => if x < m then x else m) (1.0 / 0.0)

def greatest (xs : List Float) : Float :=
  xs.foldl (fun m x => if m < x then x else m) (-1.0 / 0.0)

def mean (xs : List Float) : Outcome Float :=
  if xs = [] then .error .divisionByZero
  else .ok (total xs / Number.ofInt xs.length)

/-- Characters that may stand anywhere in an amount and mean nothing. -/
def isGrouping (c : Char) : Bool := c ∈ [',', '$', '€', '£', ' ']

/-- The number that an amount stands for: digits with grouping and currency signs, and
perhaps a percent sign at the end. -/
def readAmount? (s : String) : Option Float :=
  let kept := (Text.trimChars s.toList).filter (!isGrouping ·)
  if kept.getLast? = some '%' then
    (Value.textNumber? (String.ofList kept.dropLast)).map (· * 0.01)
  else (Value.textNumber? (String.ofList kept)).map (· * 1.0)

/-- The value of a function on numbers. -/
def applyNumber (f : MathFunction) (args : List Value) : Outcome Float :=
  match f with
  | .round => do
    let x ← Argument.number args 0
    let places ← Argument.numberOr 0 args 1
    return Number.roundPlaces (Number.toInt32 places) x
  | floor => do
    let x ← Argument.number args 0
    let unit ← Argument.numberOr 1 args 1
    return roundToMultiple .floor x unit
  | ceiling => do
    let x ← Argument.number args 0
    let unit ← Argument.numberOr 1 args 1
    return roundToMultiple .ceiling x unit
  | abs => do return (← Argument.number args 0).abs
  | mod => do
    let x ← Argument.number args 0
    let divisor ← Argument.number args 1
    modulo x divisor
  | sum => do return total (← Argument.numbers args)
  | min => do return least (← Argument.numbers args)
  | max => do return greatest (← Argument.numbers args)
  | average => do mean (← Argument.numbers args)
  | value =>
    match args with
    | .number x :: _ => .ok x
    | _ =>
      match readAmount? (Argument.text args 0) with
      | some x => .ok x
      | none => .error .wrongType

def apply (f : MathFunction) (args : List Value) : Outcome Value :=
  (f.applyNumber args).map .number

end RowFormula.MathFunction
