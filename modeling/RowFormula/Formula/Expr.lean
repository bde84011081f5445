import RowFormula.Formula.Operator
import RowFormula.Formula.Function
import RowFormula.Field

/-! Expression trees of formulas, the fields that they name and whether they read the clock. -/
namespace RowFormula

inductive Expr where
  | number (x : Float)
  | text (s : String)
  | bool (b : Bool)
  | field (name : String)
  | unary (op : UnaryOp) (operand : Expr)
  | binary (op : BinaryOp) (left right : Expr)
  | logical (op : LogicalOp) (left right : Expr)
  /-- A call. The name need not be the name of a function. -/
  | call (name : String) (args : List Expr)

namespace Expr

/-- The tree of an operator between two operands. -/
def join : Infix → Expr → Expr → Expr
  | .binary op, left, right => .binary op left right
  | .logical op, left, right => .logical op left right

/-- A call of a logical operator: its arguments joined from the left, and a lone argument
joined with the value that decides nothing. -/
def logicalCall (op : LogicalOp) (first : Expr) : List Expr → Expr
  | [] => .logical op first (.bool op.identity)
  | args => args.foldl (.logical op) first

mutual

/-- The names at the leaves that are fields, from left to right, repetitions included. -/
def fieldLeaves : Expr → List String
  | .number _ | .text _ | .bool _ => []
  | .field name => [name]
  | .unary _ operand => operand.fieldLeaves
  | .binary _ left right => left.fieldLeaves ++ right.fieldLeaves
  | .logical _ left right => left.fieldLeaves ++ right.fieldLeaves
  | .call _ args => fieldLeavesAll args

def fieldLeavesAll : List Expr → List String
  | [] => []
  | arg :: args => arg.fieldLeaves ++ fieldLeavesAll args

end

/-- The names without those that repeat an earlier one up to case, given the keys that
have occurred. -/
def firstSpellings (seen : List String) : List String → List String
  | [] => []
  | name :: rest =>
    let key := Field.key name
    if key ∈ seen then firstSpellings seen rest
    else name :: firstSpellings (key :: seen) rest

/-- The fields that the expression names, each in its first spelling. -/
def fieldReferences (e : Expr) : List String := firstSpellings [] e.fieldLeaves

mutual

/-- Whether a function is called whose result depends on the clock. -/
def readsClock : Expr → Bool
  | .number _ | .text _ | .bool _ | .field _ => false
  | .unary _ operand => operand.readsClock
  | .binary _ left right => left.readsClock || right.readsClock
  | .logical _ left right => left.readsClock || right.readsClock
  | .call name args => (Function.find? name).any Function.readsClock || readsClockAny args

def readsClockAny : List Expr → Bool
  | [] => false
  | arg :: args => arg.readsClock || readsClockAny args

end

end Expr

end RowFormula
