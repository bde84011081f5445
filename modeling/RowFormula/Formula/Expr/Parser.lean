import RowFormula.Formula.Expr
import RowFormula.Formula.Token.Lexer

/-! Expressions of token lists. The tokens are read once from left to right. What has
been read and waits for more is kept on a stack: operators with their left operand,
operators in front, open groups and open calls. -/
namespace RowFormula

/-- Something that waits for an operand. -/
inductive Frame where
  | unary (op : UnaryOp)
  /-- An operator between two operands, with its left one. -/
  | infixOp (op : Infix) (left : Expr)
  | group
  /-- A call with the arguments before this one, the last of them first. -/
  | call (name : String) (args : List Expr)
  /-- A call of a logical operator, with the offset of its opening bracket. -/
  | logicalCall (op : LogicalOp) (opening : Nat) (args : List Expr)

/-- What has to come next, above a stack with the innermost frame first. -/
inductive Phase where
  /-- An operand. -/
  | operand (stack : List Frame)
  /-- Something after a bare word: only now is it known whether the word is called. -/
  | bareWord (name : String) (stack : List Frame)
  /-- The opening bracket of a call. -/
  | functionName (name : String) (stack : List Frame)
  /-- The opening bracket after a logical word that stands where an operand does. -/
  | logicalWord (op : LogicalOp) (text : String) (pos : Nat) (stack : List Frame)
  /-- Something after a complete operand. -/
  | operator (left : Expr) (stack : List Frame)

namespace Phase

/-- An operand with the operators in front of it applied, and the stack without them. -/
def applyUnary (e : Expr) : List Frame → Expr × List Frame
  | .unary op :: rest => applyUnary (.unary op e) rest
  | stack => (e, stack)

/-- The phase after an operand. -/
def complete (e : Expr) (stack : List Frame) : Phase :=
  .operator (applyUnary e stack).1 (applyUnary e stack).2

/-- The operand that ends where an operator of some strength comes: operators at least as
strong have got their right operand. -/
def reduce (strength : Nat) (e : Expr) : List Frame → Expr × List Frame
  | .infixOp op left :: rest =>
    if strength ≤ op.strength then reduce strength (Expr.join op left e) rest
    else (e, .infixOp op left :: rest)
  | stack => (e, stack)

/-- The operator between two operands that a token stands for. -/
def infixOf? : Token.Kind → Option Infix
  | .operator op => some (.binary op)
  | .logical .and => some (.logical .and)
  | .logical .or => some (.logical .or)
  | _ => none

/-- The error for a token where an operand has to come. -/
def unexpected (token : Token) : SyntaxError :=
  if token.isFinish then .unexpectedEnd token.pos else .unexpectedToken token.text token.pos

/-- The error for a token where a bracket has to come. -/
def missing (bracket : Bracket) (token : Token) : SyntaxError :=
  .expected bracket token.display token.pos

/-- The step from a complete operand. -/
def afterOperand (token : Token) (left : Expr) (stack : List Frame) : Except SyntaxError Phase :=
  match infixOf? token.kind with
  | some op =>
    let (e, stack) := reduce op.strength left stack
    .ok (.operand (.infixOp op e :: stack))
  | none =>
    let (e, stack) := reduce 0 left stack
    match token.kind, stack with
    | _, [] => .error (.trailing token.text token.pos)
    | .rightParen, .group :: rest => .ok (complete e rest)
    | .rightParen, .call name args :: rest => .ok (complete (.call name (e :: args).reverse) rest)
    | .rightParen, .logicalCall op _ args :: rest =>
      match args.reverse with
      | [] => .ok (complete (Expr.logicalCall op e []) rest)
      | first :: others => .ok (complete (Expr.logicalCall op first (others ++ [e])) rest)
    | .comma, .call name args :: rest => .ok (.operand (.call name (e :: args) :: rest))
    | .comma, .logicalCall op opening args :: rest =>
      .ok (.operand (.logicalCall op opening (e :: args) :: rest))
    | _, _ => .error (missing .closing token)

/-- The step where an operand has to come. A closing bracket is right only directly
after the opening one of a call. -/
def atOperand (token : Token) (stack : List Frame) : Except SyntaxError Phase :=
  match token.kind with
  | .number x => .ok (complete (.number x) stack)
  | .string content => .ok (complete (.text content) stack)
  | .bool b => .ok (complete (.bool b) stack)
  | .field name true => .ok (complete (.field name) stack)
  | .field name false => .ok (.bareWord name stack)
  | .function name => .ok (.functionName name stack)
  | .leftParen => .ok (.operand (.group :: stack))
  | .operator (.arithmetic .subtract) => .ok (.operand (.unary .negate :: stack))
  | .logical .not => .ok (.operand (.unary .not :: stack))
  | .logical .and => .ok (.logicalWord .and token.text token.pos stack)
  | .logical .or => .ok (.logicalWord .or token.text token.pos stack)
  | .rightParen =>
    match stack with
    | .call name [] :: rest => .ok (complete (.call name []) rest)
    | .logicalCall _ opening [] :: _ => .error (.unexpectedToken ")" (opening + 1))
    | _ => .error (unexpected token)
  | _ => .error (unexpected token)

/-- The phase after one more token. -/
def step (token : Token) : Phase → Except SyntaxError Phase
  | operand stack => atOperand token stack
  | bareWord name stack =>
    if token.kind = .leftParen then .ok (.operand (.call (Text.upper name) [] :: stack))
    else
      let (e, stack) := applyUnary (.field name) stack
      afterOperand token e stack
  | functionName name stack =>
    if token.kind = .leftParen then .ok (.operand (.call name [] :: stack))
    else .error (missing .opening token)
  | logicalWord op text pos stack =>
    if token.kind = .leftParen then .ok (.operand (.logicalCall op token.pos [] :: stack))
    else .error (.unexpectedToken text pos)
  | operator left stack => afterOperand token left stack

/-- The expression when the formula ends after a complete operand. -/
def close (finish : Token) (e : Expr) (stack : List Frame) : Except SyntaxError Expr :=
  match reduce 0 e stack with
  | (e, []) => .ok e
  | _ => .error (missing .closing finish)

/-- The expression when the formula ends in a phase. -/
def result (finish : Token) : Phase → Except SyntaxError Expr
  | operand _ => .error (.unexpectedEnd finish.pos)
  | bareWord name stack =>
    let (e, stack) := applyUnary (.field name) stack
    close finish e stack
  | functionName _ _ => .error (missing .opening finish)
  | logicalWord _ text pos _ => .error (.unexpectedToken text pos)
  | operator e stack => close finish e stack

/-- The expression of the tokens that follow a phase. The end token ends the formula,
and so does the end of the list, at the given offset. -/
def run (stop : Nat) (phase : Phase) : List Token → Except SyntaxError Expr
  | [] => phase.result ⟨.finish, "", stop⟩
  | token :: rest =>
    if token.isFinish then phase.result token
    else
      match step token phase with
      | .ok next => run stop next rest
      | .error e => .error e

end Phase

namespace Expr

/-- The expression of a token list, with or without its end token. -/
def ofTokens (tokens : List Token) : Except SyntaxError Expr :=
  match tokens with
  | [] => .error .empty
  | first :: _ =>
    if first.isFinish then .error .empty
    else Phase.run ((tokens.getLast?.map Token.stop).getD 0) (.operand []) tokens

/-- The expression of a formula. -/
def parse (formula : String) : Except SyntaxError Expr :=
  match Token.lex formula with
  | .ok tokens => ofTokens tokens
  | .error e => .error e

/-- Text is read through its tokens. -/
theorem parse_of_lex {formula : String} {tokens : List Token} (h : Token.lex formula = .ok tokens) :
    parse formula = ofTokens tokens := by
  rw [parse, h]

end Expr

end RowFormula
