/-! Why text is no formula. Every error but one names the byte where it was noticed. -/
namespace RowFormula

/-- A bracket that had to come. -/
inductive Bracket where
  | opening | closing
  deriving DecidableEq

def Bracket.quoted : Bracket → String
  | .opening => "'('"
  | .closing => "')'"

inductive SyntaxError where
  /-- No token begins with the character. -/
  | unexpectedCharacter (c : Char) (pos : Nat)
  /-- A brace that is never closed. -/
  | unterminatedReference (pos : Nat)
  /-- Nothing but blanks. -/
  | empty
  /-- A token that cannot stand where an operand has to come. -/
  | unexpectedToken (text : String) (pos : Nat)
  /-- The end where an operand has to come. -/
  | unexpectedEnd (pos : Nat)
  | expected (bracket : Bracket) (found : String) (pos : Nat)
  /-- A token after a complete formula. -/
  | trailing (text : String) (pos : Nat)
  deriving DecidableEq

namespace SyntaxError

/-- The byte offset; the empty formula is reported at its start. -/
def pos : SyntaxError → Nat
  | unexpectedCharacter _ pos => pos
  | unterminatedReference pos => pos
  | empty => 0
  | unexpectedToken _ pos => pos
  | unexpectedEnd pos => pos
  | expected _ _ pos => pos
  | trailing _ pos => pos

def isEmpty : SyntaxError → Bool
  | empty => true
  | _ => false

def message : SyntaxError → String
  | unexpectedCharacter c pos =>
    "Unexpected character '" ++ String.singleton c ++ "' at position " ++ toString pos
  | unterminatedReference pos =>
    "Unterminated field reference starting at position " ++ toString pos
  | empty => "Formula is empty"
  | unexpectedToken text pos =>
    "Unexpected token '" ++ text ++ "' at position " ++ toString pos
  | unexpectedEnd pos => "Unexpected end of formula at position " ++ toString pos
  | expected bracket found pos =>
    "Expected " ++ bracket.quoted ++ " but found '" ++ found ++ "' at position " ++ toString pos
  | trailing text pos =>
    "Unexpected token '" ++ text ++ "' after expression at position " ++ toString pos

end SyntaxError

end RowFormula
