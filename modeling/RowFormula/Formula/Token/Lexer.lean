import RowFormula.Formula.Token
import RowFormula.Formula.SyntaxError
import RowFormula.Formula.Function
import RowFormula.Number.Reading
import RowFormula.Text.Letter

/-! Tokens of text. A lexeme is cut off as its first character and a number of characters
that follow it, so nothing but the blanks between lexemes is ever lost. -/
namespace RowFormula.Token

open RowFormula.Text (isBlank isLetter isLetterOrNumeral trimChars)

/-- The characters of a word after its first. -/
def isWordPart (c : Char) : Bool := isLetterOrNumeral c || c = '_'

/-- How many of the characters continue a number: digits, and one point unless it
has been seen. -/
def numberLength (seenPoint : Bool) : List Char → Nat
  | [] => 0
  | c :: rest =>
    if c.isDigit then numberLength seenPoint rest + 1
    else if c = '.' && !seenPoint then numberLength true rest + 1
    else 0

/-- The value of a number lexeme. -/
def numberValue (cs : List Char) : Float := (Number.readDecimal? cs).getD 0

/-- What an escaped character stands for: newline, tab or itself. -/
def unescape (c : Char) : Char :=
  if c = 'n' then '\n' else if c = 't' then '\t' else c

/-- The content of a string after its opening quote, and the number of characters up to
and with the closing one. Without a closing quote the string reaches to the end; a
backslash that ends the text stands for nothing. -/
def scanString (quote : Char) : List Char → List Char × Nat
  | [] => ([], 0)
  | c :: rest =>
    if c = quote then ([], 1)
    else if c = '\\' then
      match rest with
      | [] => ([], 1)
      | escaped :: rest =>
        let (content, n) := scanString quote rest
        (unescape escaped :: content, n + 2)
    else
      let (content, n) := scanString quote rest
      (c :: content, n + 1)

/-- The kind of a word. Case does not matter, except in the name of a field. -/
def wordKind (word : String) : Kind :=
  match Text.upper word with
  | "AND" => .logical .and
  | "OR" => .logical .or
  | "NOT" => .logical .not
  | "TRUE" => .bool true
  | "FALSE" => .bool false
  | name => if (Function.find? name).isSome then .function name else .field word false

/-- The kind of an operator lexeme. -/
def operatorKind (cs : List Char) : Option Kind :=
  (BinaryOp.ofSymbol? (String.ofList cs)).map .operator

/-- The kind of the lexeme that begins with a character that is not blank, and how many of
the following characters belong to it. Of two operators the longer one is taken. -/
def scan (pos : Nat) (c : Char) (rest : List Char) : Except SyntaxError (Kind × Nat) :=
  if c = '(' then .ok (.leftParen, 0)
  else if c = ')' then .ok (.rightParen, 0)
  else if c = ',' then .ok (.comma, 0)
  else if c = '{' then
    if '}' ∈ rest then
      let name := rest.takeWhile (· ≠ '}')
      .ok (.field (String.ofList (trimChars name)) true, name.length + 1)
    else .error (.unterminatedReference pos)
  else if c = '"' ∨ c = '\'' then
    let (content, n) := scanString c rest
    .ok (.string (String.ofList content), n)
  else
    match operatorKind (c :: rest.take 1) with
    | some kind => .ok (kind, (rest.take 1).length)
    | none =>
      match operatorKind [c] with
      | some kind => .ok (kind, 0)
      | none =>
        if c.isDigit || (c = '.' && rest.head?.any Char.isDigit) then
          let n := numberLength (c = '.') rest
          .ok (.number (numberValue (c :: rest.take n)), n)
        else if isLetter c || c = '_' then
          let n := (rest.takeWhile isWordPart).length
          .ok (wordKind (String.ofList (c :: rest.take n)), n)
        else .error (.unexpectedCharacter c pos)

/-- The number of bytes of some characters. -/
def byteLength : List Char → Nat
  | [] => 0
  | c :: rest => c.utf8Size + byteLength rest

/-- The tokens of text that begins at a byte offset, the end among them. -/
def lexFrom (pos : Nat) : List Char → Except SyntaxError (List Token)
  | [] => .ok [⟨.finish, "", pos⟩]
  | c :: rest =>
    if isBlank c then lexFrom (pos + c.utf8Size) rest
    else
      match scan pos c rest with
      | .error e => .error e
      | .ok (kind, n) =>
        let lexeme := c :: rest.take n
        match lexFrom (pos + byteLength lexeme) (rest.drop n) with
        | .error e => .error e
        | .ok tokens => .ok (⟨kind, String.ofList lexeme, pos⟩ :: tokens)
termination_by cs => cs.length
decreasing_by all_goals simp; try omega

/-- The tokens of a formula. The last one and no other is its end. -/
def lex (formula : String) : Except SyntaxError (List Token) := lexFrom 0 formula.toList

end RowFormula.Token
