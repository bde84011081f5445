import RowFormula.Formula.Expr
import RowFormula.Number.Text
import RowFormula.Text.Quoted

/-! Outlines of expression trees: one node a line, its parts below it with more indent. -/
namespace RowFormula.Expr

/-- The lines of a part of a node: indented, with a comma after the last. -/
def part (lines : List String) : List String :=
  match lines.reverse with
  | [] => []
  | last :: before => (before.reverse ++ [last ++ ","]).map ("    " ++ ·)

/-- The lines of a part with its name in front. -/
def named (name : String) : List String → List String
  | [] => []
  | first :: rest => part ((name ++ ": " ++ first) :: rest)

/-- A node with one part that has no name. -/
def leaf (name content : String) : List String := [name ++ "("] ++ part [content] ++ [")"]

/-- A node with named parts. -/
def node (name : String) (parts : List String) : List String :=
  [name ++ " \x7b"] ++ parts ++ ["\x7d"]

def UnaryOp.label : UnaryOp → String
  | .negate => "Negate"
  | .not => "Not"

def LogicalOp.label : LogicalOp → String
  | .and => "And"
  | .or => "Or"

def BinaryOp.label : BinaryOp → String
  | .arithmetic .add => "Add"
  | .arithmetic .subtract => "Subtract"
  | .arithmetic .multiply => "Multiply"
  | .arithmetic .divide => "Divide"
  | .comparison .equal => "Equal"
  | .comparison .doubleEqual => "StrictEqual"
  | .comparison .notEqual => "NotEqual"
  | .comparison .less => "LessThan"
  | .comparison .lessEqual => "LessEqual"
  | .comparison .greater => "GreaterThan"
  | .comparison .greaterEqual => "GreaterEqual"

mutual

/-- The lines of the outline. -/
def outlineLines : Expr → List String
  | .number x => leaf "Number" (Number.outlined.write x)
  | .text s => leaf "String" (Text.quoted s)
  | .bool b => leaf "Boolean" (if b then "true" else "false")
  | .field name => leaf "FieldReference" (Text.quoted name)
  | .unary op operand =>
    node "UnaryOp" (named "op" [UnaryOp.label op] ++ named "operand" operand.outlineLines)
  | .binary op left right =>
    node "BinaryOp" (named "op" [BinaryOp.label op] ++ named "left" left.outlineLines ++
      named "right" right.outlineLines)
  | .logical op left right =>
    node "LogicalOp" (named "op" [LogicalOp.label op] ++ named "left" left.outlineLines ++
      named "right" right.outlineLines)
  | .call name args =>
    let list :=
      match args with
      | [] => ["[]"]
      | args => ["["] ++ outlineParts args ++ ["]"]
    node "Function" (named "name" [Text.quoted name] ++ named "args" list)

def outlineParts : List Expr → List String
  | [] => []
  | arg :: args => part arg.outlineLines ++ outlineParts args

end

/-- The outline, each line ended. -/
def outline (e : Expr) : String := String.join (e.outlineLines.map (· ++ "\n"))

end RowFormula.Expr
