import RowFormula.Proofs.Expr.Offence
import RowFormula.Proofs.Expr.Respacing
import RowFormula.Proofs.Token.Rejection

/-! Where errors stand. What a syntax error names stands in the formula at the place that the error
gives, and an error about the end gives the end. There is one exception: a call of a logical
operator without arguments is reported right behind its opening bracket, and its closing bracket
stands there only when no blanks come between the two. -/
namespace RowFormula

open Token (Layout Piece)
open Text (isBlank isAllBlank)

/-- Some text stands in another at a byte offset. -/
def Text.StandsAt (whole text : String) (pos : Nat) : Prop :=
  ∃ before after, whole = before ++ text ++ after ∧ before.utf8ByteSize = pos

open Text (StandsAt)

/-- What an error names stands in the formula at the place of the error. The empty formula is not
said to have anything anywhere. -/
def SyntaxError.StandsIn (formula : String) : SyntaxError → Prop
  | unexpectedCharacter c pos => StandsAt formula (String.singleton c) pos
  | unterminatedReference pos => StandsAt formula "\x7b" pos
  | empty => True
  | unexpectedToken text pos => StandsAt formula text pos
  | unexpectedEnd pos => pos = formula.utf8ByteSize
  | expected _ found pos =>
    StandsAt formula found pos ∨ found = "end of formula" ∧ pos = formula.utf8ByteSize
  | trailing text pos => StandsAt formula text pos

namespace Token

/-- An error of the lexer stands at what it names. -/
theorem standsIn_of_lex {formula : String} {error : SyntaxError} (h : lex formula = .error error) :
    error.StandsIn formula := by
  obtain ⟨before, rest, hText, -, hBlocked⟩ := exists_blocked_of_lexFrom h
  have hStands : ∀ c others, rest = c :: others →
      StandsAt formula (String.singleton c) (0 + byteLength before) := by
    rintro c others rfl
    rw [Nat.zero_add, byteLength_eq]
    refine ⟨String.ofList before, String.ofList others, ?_, rfl⟩
    rw [String.append_assoc, ← String.ofList_cons, ← String.ofList_append, ← hText,
      String.ofList_toList]
  cases hBlocked with
  | brace => exact hStands _ _ rfl
  | character => exact hStands _ _ rfl

namespace Layout

/-- A token stands at its place. -/
theorem standsAt {layout : Layout} {token : Token} (h : token ∈ layout.tokens) :
    StandsAt layout.text token.text token.pos := by
  obtain ⟨before, after, hText, hPos⟩ := exists_around h
  exact ⟨before, after, hText, by rw [hPos, Nat.zero_add]⟩

theorem Fits.pos_of_finish {layout : Layout} (hFits : Fits layout.trailing layout.pieces)
    {token : Token} (h : token ∈ layout.tokens) (hFinish : token.isFinish = true) :
    token.pos = layout.text.utf8ByteSize := by
  obtain ⟨inner, hPlace, hInner⟩ := place_eq layout.trailing 0 layout.pieces
  rw [tokens, hPlace] at h
  rcases List.mem_append.mp h with hMem | hLast
  · have hPair : (token.kind, token.text) ∈
        layout.pieces.map fun piece => (piece.kind, piece.text) := hInner ▸ List.mem_map_of_mem hMem
    obtain ⟨piece, hPiece, hSame⟩ := List.mem_map.mp hPair
    obtain ⟨follow, hLexeme⟩ := hFits.lexeme hPiece
    have hKind : piece.kind = .finish :=
      (Prod.mk.inj hSame).1.trans (of_decide_eq_true hFinish)
    exact absurd hKind hLexeme.kind_ne_finish
  · rw [List.mem_singleton.mp hLast, Nat.zero_add]
    rfl

/-- Between a token and the next one there are only blanks. -/
theorem exists_gap {trailing : String} (hTrailing : isAllBlank trailing = true) {pos : Nat}
    {pieces : List Piece} {before after : List Token} {token next : Token}
    (h : place trailing pos pieces = before ++ token :: next :: after) :
    ∃ left gap right, spell trailing pieces = left ++ token.text ++ gap ++ next.text ++ right ∧
      token.pos = pos + left.utf8ByteSize ∧ isAllBlank gap = true := by
  induction pieces generalizing pos before with
  | nil =>
      have hLength := congrArg List.length h
      simp only [place, List.length_append, List.length_cons, List.length_nil] at hLength
      omega
  | cons piece rest ih =>
      cases before with
      | nil =>
          obtain ⟨rfl, hRest⟩ := List.cons.inj h
          cases rest with
          | nil =>
              obtain ⟨rfl, -⟩ := List.cons.inj hRest
              exact ⟨piece.gap, trailing, "", by simp [spell], rfl, hTrailing⟩
          | cons second others =>
              obtain ⟨rfl, -⟩ := List.cons.inj hRest
              exact ⟨piece.gap, second.gap, spell trailing others,
                by simp [spell, String.append_assoc], rfl, second.gap_blank⟩
      | cons first before =>
          obtain ⟨left, gap, right, hText, hPos, hGap⟩ := ih (List.cons.inj h).2
          refine ⟨piece.gap ++ piece.text ++ left, gap, right, ?_, ?_, hGap⟩
          · simp [spell, hText, String.append_assoc]
          · simp [hPos, String.utf8ByteSize_append, Nat.add_assoc]

/-- Between two brackets that are tokens in a row there are blanks alone. -/
theorem Fits.exists_between_brackets {layout : Layout}
    (hFits : Fits layout.trailing layout.pieces) {before after : List Token} {token next : Token}
    (h : layout.tokens = before ++ token :: next :: after) (hOpening : token.kind = .leftParen)
    (hClosing : next.kind = .rightParen) :
    ∃ left gap right, layout.text = left ++ "(" ++ gap ++ ")" ++ right ∧
      token.pos = left.utf8ByteSize ∧ isAllBlank gap = true := by
  obtain ⟨left, gap, right, hText, hPos, hGap⟩ := exists_gap layout.trailing_blank h
  have hToken : token ∈ layout.tokens := by simp [h]
  have hNext : next ∈ layout.tokens := by simp [h]
  rw [(hFits.text_of_bracket hToken).1 hOpening, (hFits.text_of_bracket hNext).2 hClosing] at hText
  exact ⟨left, gap, right, hText, by rw [hPos, Nat.zero_add], hGap⟩

/-- An error that names a token stands where the token does. -/
theorem Fits.standsIn_of_names {layout : Layout} (hFits : Fits layout.trailing layout.pieces)
    {token : Token} (h : token ∈ layout.tokens) {error : SyntaxError} (hNames : error.Names token) :
    error.StandsIn layout.text := by
  cases error with
  | unexpectedCharacter | unterminatedReference | empty => exact hNames.elim
  | unexpectedToken text pos =>
      obtain ⟨rfl, rfl⟩ := hNames
      exact standsAt h
  | trailing text pos =>
      obtain ⟨rfl, rfl⟩ := hNames
      exact standsAt h
  | unexpectedEnd pos =>
      obtain ⟨hFinish, rfl⟩ := hNames
      exact hFits.pos_of_finish h hFinish
  | expected bracket found pos =>
      obtain ⟨rfl, rfl⟩ := hNames
      cases hFinish : token.isFinish with
      | true => exact Or.inr ⟨by simp [display, hFinish], hFits.pos_of_finish h hFinish⟩
      | false => exact Or.inl (by simpa [display, hFinish] using standsAt h)

end Layout

end Token

/-- Where a list with an end is rejected, the error blames one of its tokens; the empty formula has
an error of its own. -/
theorem Expr.exists_blamed {tokens : List Token} {error : SyntaxError}
    (h : ofTokens tokens = .error error) (hEnd : ∃ token ∈ tokens, token.isFinish = true) :
    error = .empty ∨ ∃ before token after, tokens = before ++ token :: after ∧
      Phase.Blames before token error := by
  cases tokens with
  | nil => simp at hEnd
  | cons first rest =>
      simp only [ofTokens] at h
      split at h
      · cases h
        exact Or.inl rfl
      · obtain ⟨before, token, after, phase, hTokens, -, hRead, hRefuses⟩ :=
          Phase.exists_refused h hEnd
        have hStart : (Phase.operand []).Recalls [] := trivial
        exact Or.inr ⟨before, token, after, hTokens,
          hRefuses.blames (Phase.readAll_recalls hStart hRead)⟩

/-- A parser that fails is run to get its error. -/
theorem Expr.parse_eq_error {formula : String} {error : SyntaxError}
    (h : (match parse formula with
      | .ok _ => none
      | .error e => some e) = some error) : parse formula = .error error := by
  cases hParse : parse formula <;> rw [hParse] at h <;> cases h
  rfl

/-- A closing bracket does not stand where a blank does. -/
theorem not_standsAt_of_blank (before gap after : String) (hGap : isAllBlank gap = true)
    (hSome : gap ≠ "") : ¬StandsAt (before ++ gap ++ after) ")" before.utf8ByteSize := by
  rintro ⟨left, right, hText, hSize⟩
  rw [String.append_assoc, String.append_assoc] at hText
  obtain ⟨-, hSame⟩ := Layout.eq_of_append_eq hText hSize.symm
  have hChars := congrArg String.toList hSame
  cases hCons : gap.toList with
  | nil => exact hSome (String.toList_eq_nil_iff.mp hCons)
  | cons c rest =>
      rw [String.toList_append, String.toList_append, hCons] at hChars
      obtain rfl : c = ')' := (List.cons.inj hChars).1
      have hBlank := List.all_eq_true.mp hGap ')' (by rw [hCons]; exact List.mem_cons_self)
      exact absurd hBlank (by decide)

/-- What a syntax error names stands in the formula at the place that the error gives, except in
exactly one case: where blanks stand between the brackets of a call that must have arguments, the
closing bracket is reported right behind the opening one. -/
theorem error_off_place_iff {formula : String} {error : SyntaxError}
    (h : Expr.parse formula = .error error) :
    ¬error.StandsIn formula ↔ ∃ before gap after, formula = before ++ "(" ++ gap ++ ")" ++ after ∧
      isAllBlank gap = true ∧ gap ≠ "" ∧
      error = .unexpectedToken ")" (before.utf8ByteSize + 1) := by
  constructor
  · intro hOff
    unfold Expr.parse at h
    split at h
    case h_2 hLex =>
      cases h
      exact absurd (Token.standsIn_of_lex hLex) hOff
    case h_1 tokens hLex =>
      obtain ⟨layout, hFits, rfl, rfl⟩ := Layout.exists_of_lex hLex
      have hEnd : ∃ token ∈ layout.tokens, token.isFinish = true := by
        obtain ⟨inner, hPlace, -⟩ := Layout.place_eq layout.trailing 0 layout.pieces
        rw [Layout.tokens, hPlace]
        exact ⟨_, List.mem_append_right _ List.mem_cons_self, rfl⟩
      rcases Expr.exists_blamed h hEnd with rfl | ⟨before, token, after, hTokens, hBlames⟩
      · exact absurd trivial hOff
      rcases hBlames with hNames | ⟨last, hLast, hNames | ⟨hOpening, hClosing, rfl⟩⟩
      · exact absurd (hFits.standsIn_of_names (by simp [hTokens]) hNames) hOff
      · have hMem : last ∈ layout.tokens :=
          hTokens ▸ List.mem_append_left _ (List.mem_of_getLast? hLast)
        exact absurd (hFits.standsIn_of_names hMem hNames) hOff
      · obtain ⟨init, rfl⟩ := List.getLast?_eq_some_iff.mp hLast
        rw [List.append_assoc, List.singleton_append] at hTokens
        obtain ⟨left, gap, right, hText, hPos, hGap⟩ :=
          hFits.exists_between_brackets hTokens hOpening hClosing
        refine ⟨left, gap, right, hText, hGap, ?_, by rw [hPos]⟩
        rintro rfl
        refine hOff ⟨left ++ "(", right, by rw [hText, String.append_empty], ?_⟩
        rw [String.utf8ByteSize_append, hPos]
        rfl
  · rintro ⟨before, gap, after, rfl, hGap, hSome, rfl⟩ hStands
    have hNot := not_standsAt_of_blank (before ++ "(") gap (")" ++ after) hGap hSome
    rw [← String.append_assoc, String.utf8ByteSize_append] at hNot
    exact hNot hStands

/-- A call in lower case behind a letter of two bytes, with a tab between its brackets. -/
theorem error_off_place_iff_call :
    let formula := "'ö' = or(\t)"
    let error : SyntaxError := .unexpectedToken ")" 10
    Expr.parse formula = .error error ∧ formula = "'ö' = or" ++ "(" ++ "\t" ++ ")" ++ "" ∧
      ¬error.StandsIn formula := by
  intro formula error
  have hError : Expr.parse formula = .error error := Expr.parse_eq_error (by decide +kernel)
  have hText : formula = "'ö' = or" ++ "(" ++ "\t" ++ ")" ++ "" := rfl
  exact ⟨hError, hText,
    (error_off_place_iff hError).mpr ⟨"'ö' = or", "\t", "", hText, rfl, by decide, rfl⟩⟩

/-- A call without arguments, with a blank between its brackets. The closing one stands a byte after
the place where it is reported. -/
theorem spaced_call_off_place :
    Expr.parse "AND( )" = .error (.unexpectedToken ")" 4) ∧
      ¬(SyntaxError.unexpectedToken ")" 4).StandsIn "AND( )" :=
  ⟨Expr.parse_eq_error (by decide +kernel),
    not_standsAt_of_blank "AND(" " " ")" rfl (by decide)⟩

end RowFormula
