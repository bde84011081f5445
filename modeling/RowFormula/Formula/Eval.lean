import RowFormula.Formula.Expr.Parser
import RowFormula.Formula.Function.Apply
import RowFormula.Row

/-! Evaluation of expressions. The outcome is a value or the first error met from left
to right. -/
namespace RowFormula

/-- What a formula is evaluated against. -/
structure Context where
  row : Row
  fields : List Field
  now : Time.Instant

/-- The value of a named field. The name is looked up in any case among the declared
fields, the cell under the spelling of the declaration; a missing cell is null. -/
def Context.resolve (context : Context) (name : String) : Outcome Value :=
  match Field.find? context.fields name with
  | none => .error .unknownField
  | some field =>
    match context.row.get? field.name with
    | none => .ok .null
    | some (.error e) => .error e
    | some cell => .ok (cell.readAs field.type)

/-- The value of an arithmetic operation. Both operands are read as numbers before a zero
divisor is noticed. -/
def Arithmetic.apply (op : Arithmetic) (left right : Value) : Outcome Value := do
  let x ← Argument.toNumber left
  let y ← Argument.toNumber right
  match op with
  | .add => return .number (x + y)
  | .subtract => return .number (x - y)
  | .multiply => return .number (x * y)
  | .divide => if Number.isZero y then .error .divisionByZero else return .number (x / y)

def BinaryOp.apply (op : BinaryOp) (left right : Value) : Outcome Value :=
  match op with
  | .arithmetic op => op.apply left right
  | .comparison op => .ok (.bool (Value.compares op left right))

def UnaryOp.apply (op : UnaryOp) (operand : Value) : Outcome Value :=
  match op with
  | .negate => (Argument.toNumber operand).map fun x => .number (-x)
  | .not => .ok (.bool !operand.isTruthy)

/-- Whether the left operand decides the result alone. -/
def LogicalOp.decides (op : LogicalOp) (left : Value) : Bool :=
  match op with
  | .and => !left.isTruthy
  | .or => left.isTruthy

namespace Expr

mutual

/-- The value of an expression. An unknown function is noticed before its arguments are
evaluated, a wrong number of arguments after. -/
def eval (context : Context) : Expr → Outcome Value
  | .number x => .ok (.number x)
  | .text s => .ok (.text s)
  | .bool b => .ok (.bool b)
  | .field name => context.resolve name
  | .unary op operand =>
    match operand.eval context with
    | .ok value => op.apply value
    | .error e => .error e
  | .binary op left right =>
    match left.eval context with
    | .ok l =>
      match right.eval context with
      | .ok r => op.apply l r
      | .error e => .error e
    | .error e => .error e
  | .logical op left right =>
    match left.eval context with
    | .ok l =>
      if op.decides l then .ok (.bool l.isTruthy)
      else
        match right.eval context with
        | .ok r => .ok (.bool r.isTruthy)
        | .error e => .error e
    | .error e => .error e
  | .call name args =>
    match Function.find? name with
    | some f =>
      match evalAll context args with
      | .ok values => f.call context.now values
      | .error e => .error e
    | none => .error .invalid

/-- The values of several expressions, or the first error. -/
def evalAll (context : Context) : List Expr → Outcome (List Value)
  | [] => .ok []
  | arg :: args =>
    match arg.eval context with
    | .ok value =>
      match evalAll context args with
      | .ok values => .ok (value :: values)
      | .error e => .error e
    | .error e => .error e

end

end Expr

/-- The value of formula text. Text that is no formula is invalid. -/
def evalFormula (context : Context) (formula : String) : Outcome Value :=
  match Expr.parse formula with
  | .ok e => e.eval context
  | .error _ => .error .invalid

/-- The text shown for an outcome. -/
def Outcome.text : Outcome Value → String
  | .ok value => value.toText
  | .error e => e.text

end RowFormula
