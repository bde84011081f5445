import RowFormula.Formula.Operator

/-! Tokens: the lexemes of a formula with their byte offsets. -/
namespace RowFormula

/-- The words that are operators. -/
inductive LogicalWord where
  | and | or | not
  deriving DecidableEq

def LogicalWord.text : LogicalWord → String
  | .and => "AND"
  | .or => "OR"
  | .not => "NOT"

namespace Token

/-- What a lexeme stands for. -/
inductive Kind where
  | number (x : Float)
  /-- The decoded content of a string. -/
  | string (content : String)
  /-- A field in braces, or a bare word that is nothing else. -/
  | field (name : String) (braced : Bool)
  | operator (op : BinaryOp)
  | logical (word : LogicalWord)
  | bool (b : Bool)
  /-- The name of a function in upper case. -/
  | function (name : String)
  | leftParen
  | rightParen
  | comma
  /-- The end of the formula. -/
  | finish
  deriving DecidableEq

end Token

structure Token where
  kind : Token.Kind
  /-- The lexeme as it stands in the formula. -/
  text : String
  /-- The bytes before the lexeme. -/
  pos : Nat
  deriving DecidableEq

namespace Token

def isFinish (token : Token) : Bool := token.kind = .finish

/-- The token as messages name it. -/
def display (token : Token) : String :=
  if token.isFinish then "end of formula" else token.text

/-- The byte after the lexeme. -/
def stop (token : Token) : Nat := token.pos + token.text.utf8ByteSize

/-- The name of the kind of token in a listing. -/
def Kind.label : Kind → String
  | number _ => "NUMBER"
  | string _ => "STRING"
  | field .. => "FIELD_REFERENCE"
  | operator _ => "OPERATOR"
  | logical _ => "LOGICAL"
  | bool _ => "BOOLEAN"
  | function _ => "FUNCTION_NAME"
  | leftParen => "LPAREN"
  | rightParen => "RPAREN"
  | comma => "COMMA"
  | finish => "END"

end Token

end RowFormula
