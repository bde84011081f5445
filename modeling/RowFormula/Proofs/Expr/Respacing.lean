import Mathlib.Data.List.Forall2
import RowFormula.Proofs.Expr.Places
import RowFormula.Proofs.Token.Layout

/-! Blanks between lexemes. Where there are some, it does not matter which and how many, and there
may always be more: the tokens are the same but for their places, and so is what they are read
as. -/
namespace RowFormula

open Token (Layout Piece Kind Lexeme isOpenString separates)

namespace Token.Layout

/-- A lexeme with other blanks in front of it, or none where there were none. -/
def SameLexeme (piece other : Piece) : Prop :=
  other.kind = piece.kind ∧ other.text = piece.text ∧ (other.gap = "" → piece.gap = "")

/-- A layout changed in its gaps. None is emptied that had a blank, and behind a string without its
closing quote nothing changes. -/
structure Respaced (old new : Layout) : Prop where
  pieces : List.Forall₂ SameLexeme old.pieces new.pieces
  trailing : ∀ piece ∈ old.pieces.getLast?, isOpenString piece.kind piece.text.toList = true →
    new.trailing = old.trailing

theorem map_pieces_of_same {pieces pieces' : List Piece}
    (h : List.Forall₂ SameLexeme pieces pieces') :
    pieces'.map (fun piece => (piece.kind, piece.text)) =
      pieces.map fun piece => (piece.kind, piece.text) := by
  induction h with
  | nil => rfl
  | cons hSame _ ih => rw [List.map_cons, List.map_cons, ih, hSame.1, hSame.2.1]

/-- A text is cut into the same parts at the same place. -/
theorem eq_of_append_eq {before after before' after' : String}
    (h : before ++ after = before' ++ after')
    (hSize : before.utf8ByteSize = before'.utf8ByteSize) : before = before' ∧ after = after' := by
  have hLeft :
      (before ++ after).toByteArray.extract 0 before.utf8ByteSize = before.toByteArray := by
    rw [String.toByteArray_append]
    exact ByteArray.extract_append_eq_left rfl
  have hRight :
      (before ++ after).toByteArray.extract 0 before.utf8ByteSize = before'.toByteArray := by
    rw [h, String.toByteArray_append]
    exact ByteArray.extract_append_eq_left hSize
  obtain rfl := String.toByteArray_inj.mp (hLeft.symm.trans hRight)
  exact ⟨rfl, (String.append_right_inj before).mp h⟩

theorem place_ne_nil (trailing : String) (pos : Nat) (pieces : List Piece) :
    place trailing pos pieces ≠ [] := by
  cases pieces <;> exact List.cons_ne_nil _ _

/-- Text and tokens leave no choice of the gaps. -/
theorem eq_of_spell_of_place {pieces pieces' : List Piece} {trailing trailing' : String} {pos : Nat}
    (hText : spell trailing pieces = spell trailing' pieces')
    (hTokens : place trailing pos pieces = place trailing' pos pieces') :
    pieces = pieces' ∧ trailing = trailing' := by
  induction pieces generalizing pieces' pos with
  | nil =>
      cases pieces' with
      | nil => exact ⟨rfl, hText⟩
      | cons piece rest =>
          have hTail := (List.cons.inj hTokens).2
          exact absurd hTail.symm (place_ne_nil _ _ _)
  | cons piece rest ih =>
      cases pieces' with
      | nil =>
          have hTail := (List.cons.inj hTokens).2
          exact absurd hTail (place_ne_nil _ _ _)
      | cons piece' rest' =>
          simp only [place, List.cons.injEq, Token.mk.injEq, Nat.add_left_cancel_iff] at hTokens
          obtain ⟨⟨hKind, hSame, hGap⟩, hRest⟩ := hTokens
          simp only [spell, String.append_assoc] at hText
          obtain ⟨hGapText, hAfter⟩ := eq_of_append_eq hText hGap
          rw [hSame, String.append_right_inj] at hAfter
          rw [hSame, hGap] at hRest
          obtain ⟨rfl, rfl⟩ := ih hAfter hRest
          obtain ⟨_, _, _, _⟩ := piece
          obtain ⟨_, _, _, _⟩ := piece'
          simp_all

/-- With other gaps the text begins with the same character or with one that separates. -/
theorem Fits.head?_spell {trailing trailing' : String} {pieces pieces' : List Piece}
    (h : Fits trailing pieces) (hPieces : List.Forall₂ SameLexeme pieces pieces')
    (hTrailing : Text.isAllBlank trailing' = true) :
    ∀ d ∈ (spell trailing' pieces').toList.head?,
      d ∈ (spell trailing pieces).toList.head? ∨ separates d = true := by
  have hBlank : ∀ gap : String, Text.isAllBlank gap = true → ∀ d rest, gap.toList = d :: rest →
      separates d = true := by
    intro gap hGap d rest hCons
    refine Token.separates_of_isBlank (List.all_eq_true.mp hGap d ?_)
    rw [hCons]
    exact List.mem_cons_self
  intro d hd
  cases hPieces with
  | nil =>
      obtain ⟨rest, hCons⟩ := List.head?_eq_some_iff.mp hd
      exact Or.inr (hBlank trailing' hTrailing d rest hCons)
  | @cons piece other rest rest' hSame hRest =>
      obtain ⟨-, hText, hGap⟩ := hSame
      obtain ⟨c, tail, hLexeme, -⟩ := h.1.exists_cons
      simp only [spell, String.toList_append, hText, hLexeme] at hd ⊢
      cases hNew : other.gap.toList with
      | nil =>
          have hOld : piece.gap = "" := hGap (String.toList_eq_nil_iff.mp hNew)
          rw [hNew] at hd
          rw [hOld]
          exact Or.inl hd
      | cons first others =>
          rw [hNew] at hd
          obtain rfl : first = d := by simpa using hd
          exact Or.inr (hBlank other.gap other.gap_blank first others hNew)

/-- Lexemes stay lexemes when the gaps between them change. -/
theorem Fits.respaced {trailing trailing' : String} {pieces pieces' : List Piece}
    (h : Fits trailing pieces) (hPieces : List.Forall₂ SameLexeme pieces pieces')
    (hBlank : Text.isAllBlank trailing' = true)
    (hOpen : ∀ piece ∈ pieces.getLast?, isOpenString piece.kind piece.text.toList = true →
      trailing' = trailing) : Fits trailing' pieces' := by
  induction hPieces with
  | nil => trivial
  | @cons piece other rest rest' hSame hRest ih =>
      have hTail := ih h.2 fun last hLast => hOpen last (List.mem_getLast?_cons hLast)
      refine ⟨?_, hTail⟩
      rw [hSame.1, hSame.2.1]
      refine h.1.refollow (fun hString => ?_) (h.2.head?_spell hRest hBlank)
      obtain ⟨rfl, hNoBlanks⟩ := h.follow_eq_nil hString
      cases hRest
      rw [spell, hOpen piece rfl hString, hNoBlanks, String.toList_empty]

end Token.Layout

/-- The tokens of text with other gaps have the same kinds and lexemes, and the text is read as the
same tree or rejected by the same error at another place. -/
theorem layout_is_free {old new : Layout} (hLex : Token.lex old.text = .ok old.tokens)
    (h : old.Respaced new) :
    Token.lex new.text = .ok new.tokens ∧
      (new.tokens.map fun token => (token.kind, token.text)) =
        (old.tokens.map fun token => (token.kind, token.text)) ∧
      (∀ e, Expr.parse old.text = .ok e → Expr.parse new.text = .ok e) ∧
      ∀ error, Expr.parse old.text = .error error →
        ∃ pos, Expr.parse new.text = .error (error.moveTo pos) := by
  obtain ⟨layout, hFits, hText, hTokens⟩ := Layout.exists_of_lex hLex
  obtain ⟨hPieces, hTrailing⟩ := Layout.eq_of_spell_of_place hText hTokens
  rw [hPieces, hTrailing] at hFits
  have hNew := hFits.respaced h.pieces new.trailing_blank h.trailing
  have hLexNew : Token.lex new.text = .ok new.tokens :=
    Layout.lexFrom_spell new.trailing_blank hNew 0
  have hSame : (new.tokens.map fun token => (token.kind, token.text)) =
      old.tokens.map fun token => (token.kind, token.text) := by
    rw [Layout.tokens, Layout.tokens, Layout.map_place, Layout.map_place,
      Layout.map_pieces_of_same h.pieces]
  have hUnplaced : old.tokens.map Token.unplaced = new.tokens.map Token.unplaced := by
    have hMap := congrArg (List.map fun content => Token.mk content.1 content.2 0) hSame
    rw [List.map_map, List.map_map] at hMap
    exact hMap.symm
  rw [Expr.parse_of_lex hLex, Expr.parse_of_lex hLexNew]
  exact ⟨hLexNew, hSame, SyntaxError.answers_of_forgetPlace (Expr.ofTokens_unplaced hUnplaced)⟩

/-- Blanks that come between the two operators and in front of a string without its closing quote,
and one of another sort in place of a tab. -/
theorem layout_is_free_unclosed :
    let old : Layout :=
      ⟨[⟨"", .field "a" true, "\x7ba\x7d", rfl⟩, ⟨"", .operator (.comparison .less), "<", rfl⟩,
        ⟨"", .operator (.arithmetic .subtract), "-", rfl⟩,
        ⟨"\t", .string "ö", "'ö\\", rfl⟩], "", rfl⟩
    let new : Layout :=
      ⟨[⟨"\n", .field "a" true, "\x7ba\x7d", rfl⟩, ⟨"", .operator (.comparison .less), "<", rfl⟩,
        ⟨"  ", .operator (.arithmetic .subtract), "-", rfl⟩,
        ⟨"\u00a0", .string "ö", "'ö\\", rfl⟩], "", rfl⟩
    Token.lex old.text = .ok old.tokens ∧ old.Respaced new ∧
      Token.lex new.text = .ok new.tokens ∧
      Expr.parse new.text = .ok (.binary (.comparison .less) (.field "a")
        (.unary .negate (.text "ö"))) := by
  intro old new
  have hLex : Token.lex old.text = .ok old.tokens :=
    Token.lex_eq_ok_of_toOption (by decide +kernel)
  have hParse : Expr.parse old.text = .ok (.binary (.comparison .less) (.field "a")
      (.unary .negate (.text "ö"))) := Expr.parse_of_lex hLex
  have hRespaced : old.Respaced new := ⟨by simp [old, new, Layout.SameLexeme], fun _ _ _ => rfl⟩
  obtain ⟨hNew, -, hTree, -⟩ := layout_is_free hLex hRespaced
  exact ⟨hLex, hRespaced, hNew, hTree _ hParse⟩

end RowFormula
