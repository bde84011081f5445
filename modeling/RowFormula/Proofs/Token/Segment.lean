import RowFormula.Proofs.Token.Layout

/-! Text that may be put together. A segment of text has tokens of its own, and keeps them in front
of all text but for text that begins with a character that its last lexeme could go on with. -/
namespace RowFormula.Token

open Text (isLetter isLetterOrNumeral isAllBlank)

/-- Text that the lexer takes apart, with the kinds of its tokens before the end. -/
def Spells (text : String) (kinds : List Kind) : Prop :=
  ∃ layout : Layout, Layout.Fits layout.trailing layout.pieces ∧ layout.text = text ∧
    layout.pieces.map Piece.kind = kinds

theorem Spells.empty : Spells "" [] := ⟨⟨[], "", rfl⟩, trivial, rfl, rfl⟩

/-- Blanks in front change no token. -/
theorem Spells.blanks {text : String} {kinds : List Kind} (h : Spells text kinds) {gap : String}
    (hGap : isAllBlank gap = true) : Spells (gap ++ text) kinds := by
  obtain ⟨layout, hFits, rfl, rfl⟩ := h
  obtain ⟨wider, hWider, hText, hKinds, -⟩ := layout.exists_blanks_append hGap hFits
  exact ⟨wider, hWider, hText, hKinds⟩

/-- A lexeme in front is one more token. -/
theorem Spells.lexeme {kind : Kind} {text follow : String} {kinds : List Kind}
    (h : Spells follow kinds) (hLexeme : Lexeme kind text.toList follow.toList) :
    Spells (text ++ follow) (kind :: kinds) := by
  obtain ⟨layout, hFits, rfl, rfl⟩ := h
  exact ⟨{ layout with pieces := ⟨"", kind, text, rfl⟩ :: layout.pieces }, ⟨hLexeme, hFits⟩,
    by simp [Layout.text, Layout.spell], rfl⟩

/-- The tokens of the text are the ones that it spells, and the end. -/
theorem Spells.lex {text : String} {kinds : List Kind} (h : Spells text kinds) :
    ∃ inner finish, lex text = .ok (inner ++ [finish]) ∧ inner.map Token.kind = kinds ∧
      finish.isFinish = true ∧ ∀ token ∈ inner, token.isFinish = false := by
  obtain ⟨layout, hFits, rfl, rfl⟩ := h
  obtain ⟨inner, hPlace, hInner⟩ := Layout.place_eq layout.trailing 0 layout.pieces
  have hKinds : inner.map Token.kind = layout.pieces.map Piece.kind := by
    have hMap := congrArg (List.map Prod.fst) hInner
    rw [List.map_map, List.map_map] at hMap
    exact hMap
  refine ⟨inner, _, (Layout.lexFrom_spell layout.trailing_blank hFits 0).trans (congrArg _ hPlace),
    hKinds, rfl, fun token hMem => ?_⟩
  have hKind : token.kind ∈ layout.pieces.map Piece.kind := hKinds ▸ List.mem_map_of_mem hMem
  obtain ⟨piece, hPiece, hSame⟩ := List.mem_map.mp hKind
  obtain ⟨follow, hLexeme⟩ := hFits.lexeme hPiece
  simpa [isFinish, ← hSame] using hLexeme.kind_ne_finish

/-- Text that keeps its tokens in front of all text, if that begins with a character that may
follow. -/
def Segment (mayFollow : Char → Bool) (text : String) (kinds : List Kind) : Prop :=
  ∀ follow others, (∀ d ∈ follow.toList.head?, mayFollow d = true) → Spells follow others →
    Spells (text ++ follow) (kinds ++ others)

namespace Segment

variable {mayFollow mayFollow' : Char → Bool} {text text' : String} {kinds kinds' : List Kind}

theorem spells (h : Segment mayFollow text kinds) : Spells text kinds := by
  simpa using h "" [] (by simp) .empty

/-- Segments can stand one behind the other where the second may follow the first. -/
theorem append (h : Segment mayFollow text kinds) (h' : Segment mayFollow' text' kinds')
    (hHead : ∀ follow, ∀ d ∈ (text' ++ follow).toList.head?, mayFollow d = true) :
    Segment mayFollow' (text ++ text') (kinds ++ kinds') := by
  intro follow others hFollow hSpells
  rw [String.append_assoc, List.append_assoc]
  exact h _ _ (hHead follow) (h' follow others hFollow hSpells)

theorem blanks (h : Segment mayFollow text kinds) {gap : String} (hGap : isAllBlank gap = true) :
    Segment mayFollow (gap ++ text) kinds := by
  intro follow others hFollow hSpells
  rw [String.append_assoc]
  exact (h follow others hFollow hSpells).blanks hGap

/-- A lexeme that nothing follows keeps its kind in front of a character that separates. -/
theorem lexeme {kind : Kind} (hLexeme : Lexeme kind text.toList [])
    (hClosed : isOpenString kind text.toList = false) : Segment separates text [kind] := by
  intro follow others hFollow hSpells
  refine hSpells.lexeme (hLexeme.refollow (fun hOpen => ?_) fun d hd => Or.inr (hFollow d hd))
  exact absurd (hOpen.symm.trans hClosed) (by decide)

/-- A bracket keeps its kind in front of everything. -/
theorem leftParen : Segment (fun _ => true) "(" [.leftParen] :=
  fun follow _ _ hSpells => hSpells.lexeme (.leftParen follow.toList)

theorem rightParen : Segment (fun _ => true) ")" [.rightParen] :=
  fun follow _ _ hSpells => hSpells.lexeme (.rightParen follow.toList)

theorem comma : Segment (fun _ => true) "," [.comma] :=
  fun follow _ _ hSpells => hSpells.lexeme (.comma follow.toList)

/-- Brackets around a segment are two more tokens, and anything may follow. -/
theorem brackets (h : Segment separates text kinds) :
    Segment (fun _ => true) ("(" ++ text ++ ")") (.leftParen :: (kinds ++ [.rightParen])) := by
  have hInner := h.append rightParen fun follow d hd => by
    obtain rfl : ')' = d := by simpa using hd
    decide +kernel
  rw [String.append_assoc]
  exact leftParen.append hInner fun _ _ _ => rfl

end Segment

/-- An opening bracket separates, with or without blanks in front of it. -/
theorem separates_of_head?_blanks {gap : String} (hGap : isAllBlank gap = true) (text : String) :
    ∀ d ∈ (gap ++ ("(" ++ text)).toList.head?, separates d = true := by
  intro d hd
  rw [String.toList_append, List.head?_append, Option.mem_def, Option.or_eq_some_iff] at hd
  rcases hd with hBlank | ⟨-, hBracket⟩
  · exact separates_of_isBlank (List.all_eq_true.mp hGap d (List.mem_of_head? hBlank))
  · obtain rfl : '(' = d := by simpa using hBracket
    decide +kernel

/-- A word with brackets behind it is its own token and those of the brackets. -/
theorem Segment.called {word text : String} {kind : Kind} {kinds : List Kind}
    (hWord : Segment separates word [kind]) (h : Segment separates text kinds) :
    Segment (fun _ => true) (word ++ ("(" ++ text ++ ")"))
      (kind :: .leftParen :: (kinds ++ [.rightParen])) := by
  have hNoGap : isAllBlank "" = true := rfl
  refine hWord.append h.brackets fun follow => ?_
  simpa [String.append_assoc] using separates_of_head?_blanks hNoGap (text ++ ")" ++ follow)

/-- Text stays the same in front of a character that separates when its last lexeme is complete. -/
theorem Layout.Fits.segment {trailing : String} {pieces : List Piece} (h : Fits trailing pieces)
    (hTrailing : isAllBlank trailing = true)
    (hLast : ∀ piece ∈ pieces.getLast?, isOpenString piece.kind piece.text.toList = false) :
    Segment separates (spell trailing pieces) (pieces.map Piece.kind) := by
  induction pieces with
  | nil => exact fun _ _ _ hSpells => hSpells.blanks hTrailing
  | cons piece rest ih =>
      intro follow others hFollow hSpells
      have hRest : Segment separates (spell trailing rest) (rest.map Piece.kind) := by
        refine ih h.2 fun last hMem => hLast last ?_
        simp [List.getLast?_cons, Option.mem_def.mp hMem]
      have hAfter := hRest follow others hFollow hSpells
      have hLexeme :
          Lexeme piece.kind piece.text.toList (spell trailing rest ++ follow).toList := by
        refine h.1.refollow (fun hOpen => ?_) fun d hd => ?_
        · obtain ⟨rfl, -⟩ := h.follow_eq_nil hOpen
          exact absurd (hOpen.symm.trans (hLast piece rfl)) (by decide)
        · rw [String.toList_append, List.head?_append, Option.mem_def, Option.or_eq_some_iff] at hd
          exact hd.imp_right fun hAfterRest => hFollow d hAfterRest.2
      have hPiece := (hAfter.lexeme hLexeme).blanks piece.gap_blank
      simpa [spell, String.append_assoc] using hPiece

/-! Words and symbols. -/

theorem isAlpha_of_toUpper {c : Char} (h : c.toUpper.isUpper = true ∨ c.toUpper = '_') :
    c.isAlpha = true ∨ c = '_' := by
  by_cases hLower : c.isLower = true
  · exact Or.inl (Bool.or_eq_true_iff.mpr (Or.inr hLower))
  · have hSame : c.toUpper = c := dif_neg fun hBounds => hLower
      (Bool.and_eq_true_iff.mpr ⟨decide_eq_true hBounds.1, decide_eq_true hBounds.2⟩)
    rw [hSame] at h
    exact h.imp_left fun hUpper => Bool.or_eq_true_iff.mpr (Or.inl hUpper)

theorem toNat_lt_of_isAlpha {c : Char} (h : c.isAlpha = true ∨ c = '_') : c.toNat < 0x80 := by
  rcases h with hAlpha | rfl
  · rcases Bool.or_eq_true_iff.mp hAlpha with hUpper | hLower
    · have hBound : c.val ≤ 'Z'.val := (of_decide_eq_true hUpper).2
      exact Nat.lt_of_le_of_lt (UInt32.le_iff_toNat_le.mp hBound) (by decide)
    · have hBound : c.val ≤ 'z'.val := of_decide_eq_true (Bool.and_eq_true_iff.mp hLower).2
      exact Nat.lt_of_le_of_lt (UInt32.le_iff_toNat_le.mp hBound) (by decide)
  · decide

theorem Lexeme.word_of_isAlpha {word : String} (hSome : word ≠ "")
    (h : ∀ c ∈ word.toList, c.isAlpha = true ∨ c = '_') :
    Lexeme (wordKind word) word.toList [] := by
  have hLetter : ∀ c ∈ word.toList, isLetter c = true ∨ c = '_' := fun c hc =>
    (h c hc).imp_left (Text.isLetter_of_isAlpha c)
  cases hWord : word.toList with
  | nil => exact absurd (String.toList_eq_nil_iff.mp hWord) hSome
  | cons c tail =>
      rw [hWord] at hLetter
      have hKind : wordKind word = wordKind (String.ofList (c :: tail)) := by
        rw [← hWord, String.ofList_toList]
      rw [hKind]
      refine .word (hLetter c List.mem_cons_self) (fun d hd => ?_) (by simp)
      exact isWordPart_of_wordStart (hLetter d (List.mem_cons_of_mem c hd))

/-- The symbol of an operator is one token. -/
theorem Segment.operator (op : BinaryOp) : Segment separates op.symbol [.operator op] :=
  .lexeme (.operator op fun _ hd => absurd hd (by simp)) rfl

/-- The word of a logical operator is one token. -/
theorem Segment.logicalWord (word : LogicalWord) : Segment separates word.text [.logical word] := by
  have hWord : Lexeme (wordKind word.text) word.text.toList [] :=
    .word_of_isAlpha (by cases word <;> decide) (forall_mem_of_all (by cases word <;> decide))
  have hKind : wordKind word.text = .logical word := by cases word <;> rfl
  rw [hKind] at hWord
  exact .lexeme hWord rfl

/-- The name of a function is known in any letter case. -/
theorem wordKind_eq_function {f : Function} {name : String} (h : Text.upper name = f.name) :
    wordKind name = .function f.name := by
  have hOther : ∀ f ∈ Function.all, f.name ∉ ["AND", "OR", "NOT", "TRUE", "FALSE"] := by decide
  have hFound : ∀ f ∈ Function.all, (Function.find? f.name).isSome = true := by decide +kernel
  have hName := hOther f f.mem_all
  simp only [List.mem_cons, List.not_mem_nil, or_false, not_or] at hName
  unfold wordKind
  rw [h]
  split
  case h_6 => rw [if_pos (hFound f f.mem_all)]
  all_goals simp_all

/-- The name of a function in any case of its letters. -/
theorem Segment.functionName {f : Function} {name : String} (h : name.toUpper = f.name) :
    Segment separates name [.function f.name] := by
  have hNames : ∀ f ∈ Function.all, f.name ≠ "" ∧
      f.name.toList.all (fun c => decide (c.isUpper = true ∨ c = '_')) = true := by decide
  obtain ⟨hSome, hCapitals⟩ := hNames f f.mem_all
  have hChars : ∀ c ∈ name.toList, c.isAlpha = true ∨ c = '_' := by
    intro c hc
    refine isAlpha_of_toUpper (forall_mem_of_all hCapitals _ ?_)
    rw [← h, String.toUpper, String.toList_map]
    exact List.mem_map_of_mem hc
  have hUpper : Text.upper name = f.name := by
    rw [Text.upper_of_ascii fun c hc => toNat_lt_of_isAlpha (hChars c hc), h]
  have hWord : Lexeme (wordKind name) name.toList [] := by
    refine .word_of_isAlpha ?_ hChars
    rintro rfl
    exact hSome (by simp [← h, String.toUpper, ← String.toList_inj])
  rw [wordKind_eq_function hUpper] at hWord
  exact .lexeme hWord rfl

end RowFormula.Token
