/-! Operators. The strength of an operator says how tightly it binds; all operators
between two operands group to the left. -/
namespace RowFormula

inductive Arithmetic where
  | add | subtract | multiply | divide
  deriving DecidableEq

inductive Comparison where
  | equal
  /-- Written `==`; the same relation as `=`. -/
  | doubleEqual
  | notEqual
  | less | lessEqual
  | greater | greaterEqual
  deriving DecidableEq

/-- An operator whose operands are both evaluated. -/
inductive BinaryOp where
  | arithmetic (op : Arithmetic)
  | comparison (op : Comparison)
  deriving DecidableEq

/-- An operator whose right operand is evaluated only when the left one does not decide. -/
inductive LogicalOp where
  | and | or
  deriving DecidableEq

/-- An operator in front of its operand. It binds tighter than any between two. -/
inductive UnaryOp where
  | negate | not
  deriving DecidableEq

/-- Any operator between two operands. -/
inductive Infix where
  | binary (op : BinaryOp)
  | logical (op : LogicalOp)
  deriving DecidableEq

namespace BinaryOp

/-- All binary operators with their symbols. -/
def symbols : List (String × BinaryOp) :=
  [("+", .arithmetic .add), ("-", .arithmetic .subtract), ("*", .arithmetic .multiply),
   ("/", .arithmetic .divide), ("=", .comparison .equal), ("==", .comparison .doubleEqual),
   ("!=", .comparison .notEqual), ("<", .comparison .less), ("<=", .comparison .lessEqual),
   (">", .comparison .greater), (">=", .comparison .greaterEqual)]

def ofSymbol? (symbol : String) : Option BinaryOp := symbols.lookup symbol

def symbol : BinaryOp → String
  | .arithmetic .add => "+"
  | .arithmetic .subtract => "-"
  | .arithmetic .multiply => "*"
  | .arithmetic .divide => "/"
  | .comparison .equal => "="
  | .comparison .doubleEqual => "=="
  | .comparison .notEqual => "!="
  | .comparison .less => "<"
  | .comparison .lessEqual => "<="
  | .comparison .greater => ">"
  | .comparison .greaterEqual => ">="

/-- Every operator is found under its symbol. -/
theorem ofSymbol?_symbol (op : BinaryOp) : ofSymbol? op.symbol = some op := by
  rcases op with (_ | _ | _ | _) | (_ | _ | _ | _ | _ | _ | _) <;> rfl

/-- Multiplication and division bind tighter than sums, and sums tighter than comparisons. -/
def strength : BinaryOp → Nat
  | .comparison _ => 3
  | .arithmetic .add | .arithmetic .subtract => 4
  | .arithmetic .multiply | .arithmetic .divide => 5

def isComparison : BinaryOp → Bool
  | .comparison _ => true
  | .arithmetic _ => false

end BinaryOp

/-- Disjunction binds loosest of all. -/
def LogicalOp.strength : LogicalOp → Nat
  | .or => 1
  | .and => 2

def LogicalOp.symbol : LogicalOp → String
  | .and => "AND"
  | .or => "OR"

/-- What a call with one argument combines that argument with. -/
def LogicalOp.identity : LogicalOp → Bool
  | .and => true
  | .or => false

def Infix.strength : Infix → Nat
  | .binary op => op.strength
  | .logical op => op.strength

end RowFormula
