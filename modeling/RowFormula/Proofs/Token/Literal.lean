import RowFormula.Proofs.Token.Layout

/-! Text as a string literal. With a backslash before its quotes and backslashes all text can stand
between quotes, and nothing in it ends the literal or reaches beyond it. What comes behind the
literal is taken apart as it would be alone, only that many bytes later. -/
namespace RowFormula

/-- The error of text that stands some bytes later. -/
def SyntaxError.shift (bytes : Nat) : SyntaxError → SyntaxError
  | unexpectedCharacter c pos => unexpectedCharacter c (pos + bytes)
  | unterminatedReference pos => unterminatedReference (pos + bytes)
  | empty => empty
  | unexpectedToken text pos => unexpectedToken text (pos + bytes)
  | unexpectedEnd pos => unexpectedEnd (pos + bytes)
  | expected bracket found pos => expected bracket found (pos + bytes)
  | trailing text pos => trailing text (pos + bytes)

namespace Token

open Text (isBlank)

/-- The token of text that stands some bytes later. -/
def shift (bytes : Nat) (token : Token) : Token := { token with pos := token.pos + bytes }

/-- What the lexer answers on text that stands some bytes later. -/
def shiftAnswer (bytes : Nat) : Except SyntaxError (List Token) → Except SyntaxError (List Token)
  | .ok tokens => .ok (tokens.map (shift bytes))
  | .error e => .error (e.shift bytes)

/-- Where a lexeme stands shows in no more than the place of an error. -/
theorem scan_add (pos bytes : Nat) (c : Char) (rest : List Char) :
    scan (pos + bytes) c rest = (scan pos c rest).mapError (SyntaxError.shift bytes) := by
  simp only [scan]
  repeat' split
  all_goals rfl

/-- Text that begins further on has the same tokens further on. -/
theorem lexFrom_add (pos bytes : Nat) (cs : List Char) :
    lexFrom (pos + bytes) cs = shiftAnswer bytes (lexFrom pos cs) := by
  fun_induction lexFrom pos cs with
  | case1 pos => rw [lexFrom]; rfl
  | case2 pos c rest hBlank ih => rw [lexFrom, if_pos hBlank, Nat.add_right_comm, ih]
  | case3 pos c rest hBlank e hScan =>
      rw [lexFrom, if_neg hBlank, scan_add, hScan]
      rfl
  | case4 pos c rest hBlank kind n hScan lexeme _ hLex ih
  | case5 pos c rest hBlank kind n hScan lexeme _ hLex ih =>
      have hShifted : scan (pos + bytes) c rest = .ok (kind, n) := by
        rw [scan_add, hScan]
        rfl
      rw [hLex] at ih
      simp only [lexFrom, if_neg hBlank, hShifted]
      rw [Nat.add_right_comm, ih]
      rfl

/-- The ways to write text between quotes. Quotes and backslashes have a backslash before them;
newlines and tabs stand as they are or have names. -/
inductive Escaped (quote : Char) : List Char → List Char → Prop
  | nil : Escaped quote [] []
  | plain {c body content} (hQuote : c ≠ quote) (hEscape : c ≠ '\\')
      (h : Escaped quote body content) : Escaped quote (c :: body) (c :: content)
  | marked {c body content} (hMark : c = quote ∨ c = '\\') (h : Escaped quote body content) :
      Escaped quote ('\\' :: c :: body) (c :: content)
  | newline {body content} (h : Escaped quote body content) :
      Escaped quote ('\\' :: 'n' :: body) ('\n' :: content)
  | tab {body content} (h : Escaped quote body content) :
      Escaped quote ('\\' :: 't' :: body) ('\t' :: content)

/-- Text between quotes. -/
def literal (quote : Char) (body : List Char) : String := String.ofList (quote :: (body ++ [quote]))

/-- All text can be written between quotes. -/
theorem exists_escaped (quote : Char) (content : List Char) :
    ∃ body, Escaped quote body content := by
  induction content with
  | nil => exact ⟨[], .nil⟩
  | cons c content ih =>
      obtain ⟨body, h⟩ := ih
      by_cases hMark : c = quote ∨ c = '\\'
      · exact ⟨'\\' :: c :: body, .marked hMark h⟩
      · rw [not_or] at hMark
        exact ⟨c :: body, .plain hMark.1 hMark.2 h⟩

/-- What is written for a text stands for that text. -/
theorem Escaped.quoted {quote : Char} (hQuote : quote = '"' ∨ quote = '\'')
    {body content : List Char} (h : Escaped quote body content) : Quoted quote body content := by
  induction h with
  | nil => exact .nil
  | plain hPlain hEscape _ ih => exact .plain hPlain hEscape ih
  | @marked c body content hMark _ ih =>
      have hSelf : unescape c = c := by
        rcases hMark with rfl | rfl
        · rcases hQuote with rfl | rfl <;> rfl
        · rfl
      have hWritten := Quoted.escaped c ih
      rwa [hSelf] at hWritten
  | newline _ ih => exact .escaped 'n' ih
  | tab _ ih => exact .escaped 't' ih

/-- A literal is one lexeme in front of everything. -/
theorem lex_literal_append {quote : Char} (hQuote : quote = '"' ∨ quote = '\'') {s : String}
    {body : List Char} (h : Escaped quote body s.toList) (rest : String) :
    lex (literal quote body ++ rest) =
      (shiftAnswer (literal quote body).utf8ByteSize (lex rest)).map
        (⟨.string s, literal quote body, 0⟩ :: ·) := by
  have hLexeme := Lexeme.string hQuote (h.quoted hQuote) rest.toList
  have hLex := lexFrom_lexeme 0 hLexeme
  rw [byteLength_eq, lexFrom_add, String.ofList_toList] at hLex
  rw [lex, String.toList_append, literal, String.toList_ofList, hLex]
  rfl

/-- All text can stand as a string literal in front of all other text. The literal is one token that
stands for the text, and behind it come the tokens or the error that the other text has alone, later
by the bytes of the literal. -/
theorem literals_embed {quote : Char} (hQuote : quote = '"' ∨ quote = '\'') (s : String) :
    (∃ body, Escaped quote body s.toList) ∧
    ∀ body, Escaped quote body s.toList → ∀ rest,
      (∀ tokens, lex rest = .ok tokens → lex (literal quote body ++ rest) =
        .ok (⟨.string s, literal quote body, 0⟩ ::
          tokens.map (shift (literal quote body).utf8ByteSize))) ∧
      ∀ e, lex rest = .error e →
        lex (literal quote body ++ rest) = .error (e.shift (literal quote body).utf8ByteSize) := by
  refine ⟨exists_escaped quote s.toList, fun body h rest => ?_⟩
  constructor
  all_goals
    intro _ hRest
    rw [lex_literal_append hQuote h, hRest]
    rfl

/-- Text with both marks and a newline in both forms, in front of a brace that is never closed and
in front of one more quote. -/
theorem literals_embed_apostrophe :
    let s := "it's\n\n\\"
    let body := ['i', 't', '\\', '\'', 's', '\n', '\\', 'n', '\\', '\\']
    (('\'' = '"' ∨ '\'' = '\'') ∧ Escaped '\'' body s.toList) ∧
      lex (literal '\'' body ++ "\x7b") = .error (.unterminatedReference 12) ∧
      lex (literal '\'' body ++ "'x") =
        .ok [⟨.string s, literal '\'' body, 0⟩, ⟨.string "x", "'x", 12⟩, ⟨.finish, "", 14⟩] := by
  intro s body
  have hQuote : '\'' = '"' ∨ '\'' = '\'' := Or.inr rfl
  have hContent : s.toList = ['i', 't', '\'', 's', '\n', '\n', '\\'] := by decide
  have hEscaped : Escaped '\'' body s.toList := by
    rw [hContent]
    refine .plain ?_ ?_ (.plain ?_ ?_ (.marked (Or.inl rfl) (.plain ?_ ?_ (.plain ?_ ?_
      (.newline (.marked (Or.inr rfl) .nil))))))
    all_goals decide
  have hBrace : lex "\x7b" = .error (.unterminatedReference 0) := by
    have hStart : isBlank '\x7b' = false := by decide
    simp [lex, lexFrom, scan, hStart]
  have hOpen : lex "'x" = .ok [⟨.string "x", "'x", 0⟩, ⟨.finish, "", 2⟩] :=
    lex_eq_ok_of_toOption (by decide +kernel)
  obtain ⟨-, hEmbedded⟩ := literals_embed hQuote s
  exact ⟨⟨hQuote, hEscaped⟩, (hEmbedded body hEscaped "\x7b").2 _ hBrace,
    (hEmbedded body hEscaped "'x").1 _ hOpen⟩

end Token

end RowFormula
