import RowFormula.Formula.Operator
import RowFormula.Value

/-! Comparison of values. The first rule that fits counts: null, then instants, then
numbers, then text. -/
namespace RowFormula

/-- Whether a comparison accepts an outcome. Where two values are not ordered at all,
only their difference is certain. -/
def Comparison.accepts (op : Comparison) (outcome : Option Ordering) : Bool :=
  match op, outcome with
  | .notEqual, none => true
  | _, none => false
  | .equal, some o | .doubleEqual, some o => o = .eq
  | .notEqual, some o => o ≠ .eq
  | .less, some o => o = .lt
  | .lessEqual, some o => o ≠ .gt
  | .greater, some o => o = .gt
  | .greaterEqual, some o => o ≠ .lt

namespace Value

/-- The order of two optional numbers, none where one is missing. -/
def numberOrder? (x y : Option Float) : Option Ordering :=
  match x, y with
  | some x, some y => Number.order? x y
  | _, _ => none

/-- The order of two values that are not null. Instants are compared when both sides can be
read as instants, numbers when one side is a number or both are written as numbers. -/
def order? (a b : Value) : Option Ordering :=
  match a.date?, b.date? with
  | some s, some t => some (Time.Instant.order s t)
  | _, _ =>
    if a.isNumber || b.isNumber then numberOrder? a.number? b.number?
    else
      match a.cleanNumber?, b.cleanNumber? with
      | some x, some y => Number.order? x y
      | _, _ => some (compare a.toText b.toText)

/-- Whether a comparison holds. Null equals null, and no other comparison with null holds. -/
def compares (op : Comparison) (a b : Value) : Bool :=
  match a.isNull, b.isNull with
  | true, true => op = .equal || op = .doubleEqual
  | false, false => op.accepts (order? a b)
  | _, _ => false

end Value

end RowFormula
