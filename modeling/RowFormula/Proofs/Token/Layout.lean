import RowFormula.Proofs.Token.Lexeme

/-! Text as lexemes with blanks around them. The lexer cuts all text that it accepts in this way:
its tokens are the lexemes at their places, the end of the text after them, and only blanks lie
between. -/
namespace RowFormula.Token

open Text (isBlank isAllBlank)

/-- A lexeme with the blanks in front of it. -/
structure Piece where
  gap : String
  kind : Kind
  text : String
  gap_blank : isAllBlank gap = true

/-- Lexemes with the blanks around them. -/
structure Layout where
  pieces : List Piece
  /-- The blanks behind the last lexeme. -/
  trailing : String
  trailing_blank : isAllBlank trailing = true

namespace Layout

/-- The text of some pieces and the blanks behind them. -/
def spell (trailing : String) : List Piece → String
  | [] => trailing
  | piece :: rest => piece.gap ++ piece.text ++ spell trailing rest

/-- The tokens of some pieces from a byte offset on, and the end where the blanks behind them
stop. -/
def place (trailing : String) (pos : Nat) : List Piece → List Token
  | [] => [⟨.finish, "", pos + trailing.utf8ByteSize⟩]
  | piece :: rest =>
    ⟨piece.kind, piece.text, pos + piece.gap.utf8ByteSize⟩ ::
      place trailing (pos + piece.gap.utf8ByteSize + piece.text.utf8ByteSize) rest

def text (layout : Layout) : String := spell layout.trailing layout.pieces

def tokens (layout : Layout) : List Token := place layout.trailing 0 layout.pieces

/-- Every piece has a lexeme in front of the pieces after it. -/
def Fits (trailing : String) : List Piece → Prop
  | [] => True
  | piece :: rest =>
    Lexeme piece.kind piece.text.toList (spell trailing rest).toList ∧ Fits trailing rest

end Layout

/-- Bytes are counted as the text has them. -/
theorem byteLength_eq (cs : List Char) : byteLength cs = (String.ofList cs).utf8ByteSize := by
  induction cs with
  | nil => rfl
  | cons c rest ih => simp [byteLength, ih, String.ofList_cons, String.utf8ByteSize_append]

theorem byteLength_append (cs ds : List Char) :
    byteLength (cs ++ ds) = byteLength cs + byteLength ds := by
  simp only [byteLength_eq, String.ofList_append, String.utf8ByteSize_append]

/-- A lexeme is not empty. -/
theorem Lexeme.utf8ByteSize_pos {kind : Kind} {text : String} {follow : List Char}
    (h : Lexeme kind text.toList follow) : 0 < text.utf8ByteSize := by
  obtain ⟨c, tail, hText, -⟩ := h.exists_cons
  rw [← String.ofList_toList (s := text), hText, ← byteLength_eq, byteLength]
  exact Nat.add_pos_left c.utf8Size_pos _

/-- Blanks are passed over. -/
theorem lexFrom_blanks (pos : Nat) {gap : List Char} (hGap : ∀ c ∈ gap, isBlank c = true)
    (rest : List Char) : lexFrom pos (gap ++ rest) = lexFrom (pos + byteLength gap) rest := by
  induction gap generalizing pos with
  | nil => rfl
  | cons c gap ih =>
      rw [List.cons_append, lexFrom, if_pos (hGap c List.mem_cons_self),
        ih _ fun d hd => hGap d (List.mem_cons_of_mem c hd), byteLength, Nat.add_assoc]

/-- A lexeme in front is the first token. -/
theorem lexFrom_lexeme (pos : Nat) {kind : Kind} {lexeme follow : List Char}
    (h : Lexeme kind lexeme follow) :
    lexFrom pos (lexeme ++ follow) =
      (lexFrom (pos + byteLength lexeme) follow).map (⟨kind, String.ofList lexeme, pos⟩ :: ·) := by
  obtain ⟨c, tail, rfl, hBlank⟩ := h.exists_cons
  rw [List.cons_append, lexFrom, hBlank, scan_of_lexeme pos h]
  simp only [List.take_left, List.drop_left, Bool.false_eq_true, if_false]
  cases lexFrom (pos + byteLength (c :: tail)) follow <;> rfl

namespace Layout

/-- Pieces that fit are the tokens of what they spell. -/
theorem lexFrom_spell {trailing : String} (hTrailing : isAllBlank trailing = true)
    {pieces : List Piece} (h : Fits trailing pieces) (pos : Nat) :
    lexFrom pos (spell trailing pieces).toList = .ok (place trailing pos pieces) := by
  induction pieces generalizing pos with
  | nil =>
      have hBlanks := lexFrom_blanks pos (List.all_eq_true.mp hTrailing) []
      rw [List.append_nil, lexFrom, byteLength_eq, String.ofList_toList] at hBlanks
      exact hBlanks
  | cons piece rest ih =>
      obtain ⟨hLexeme, hRest⟩ := h
      simp only [spell, String.toList_append, List.append_assoc]
      rw [lexFrom_blanks pos (List.all_eq_true.mp piece.gap_blank), lexFrom_lexeme _ hLexeme]
      simp only [byteLength_eq, String.ofList_toList, ih hRest]
      rfl

/-- Blanks in front belong to the first gap. -/
theorem exists_blanks_append {gap : String} (hGap : isAllBlank gap = true) (layout : Layout)
    (h : Fits layout.trailing layout.pieces) :
    ∃ wider : Layout, Fits wider.trailing wider.pieces ∧
      spell wider.trailing wider.pieces = gap ++ spell layout.trailing layout.pieces ∧
      wider.pieces.map Piece.kind = layout.pieces.map Piece.kind ∧
      ∀ pos, place wider.trailing pos wider.pieces =
        place layout.trailing (pos + gap.utf8ByteSize) layout.pieces := by
  have hBlank : ∀ other, isAllBlank other = true → isAllBlank (gap ++ other) = true := by
    intro other hOther
    simp_all [isAllBlank]
  obtain ⟨pieces, trailing, trailing_blank⟩ := layout
  cases pieces with
  | nil =>
      refine ⟨⟨[], _, hBlank trailing trailing_blank⟩, trivial, rfl, rfl, fun pos => ?_⟩
      simp [place, String.utf8ByteSize_append, Nat.add_assoc]
  | cons piece rest =>
      let first : Piece := { piece with gap := _, gap_blank := hBlank piece.gap piece.gap_blank }
      refine ⟨⟨first :: rest, trailing, trailing_blank⟩, h, ?_, rfl, fun pos => ?_⟩
      · simp [first, spell, String.append_assoc]
      · simp [first, place, String.utf8ByteSize_append, Nat.add_assoc]

/-- All text that the lexer accepts is laid out in lexemes. -/
theorem exists_of_lexFrom {pos : Nat} {cs : List Char} {tokens : List Token}
    (h : lexFrom pos cs = .ok tokens) :
    ∃ layout : Layout, Fits layout.trailing layout.pieces ∧
      spell layout.trailing layout.pieces = String.ofList cs ∧
      place layout.trailing pos layout.pieces = tokens := by
  fun_induction lexFrom pos cs generalizing tokens with
  | case1 pos =>
      cases h
      exact ⟨⟨[], "", rfl⟩, trivial, rfl, rfl⟩
  | case2 pos c rest hc ih =>
      obtain ⟨layout, hFits, hText, hTokens⟩ := ih h
      have hGap : isAllBlank (String.singleton c) = true := by simp [isAllBlank, hc]
      obtain ⟨wider, hWider, hWiderText, -, hPlace⟩ := layout.exists_blanks_append hGap hFits
      refine ⟨wider, hWider, by rw [hWiderText, hText, String.ofList_cons], ?_⟩
      rw [hPlace, String.utf8ByteSize_singleton, hTokens]
  | case3 => cases h
  | case4 => cases h
  | case5 pos c rest hc kind n hScan lexeme others hLex =>
      rename_i ih
      cases h
      obtain ⟨layout, hFits, hText, hTokens⟩ := ih hLex
      obtain ⟨tail, follow, rfl, rfl, hLexeme⟩ := begins_of_scan hScan
      simp only [lexeme, List.take_left, List.drop_left, byteLength_eq] at hText hTokens ⊢
      refine ⟨{ layout with pieces := ⟨"", kind, String.ofList (c :: tail), rfl⟩ :: layout.pieces },
        ⟨?_, hFits⟩, ?_, ?_⟩
      · simpa only [hText, String.toList_ofList] using hLexeme
      · rw [spell, hText, String.empty_append, ← String.ofList_append, List.cons_append]
      · rw [place, String.utf8ByteSize_empty, Nat.add_zero, hTokens]

/-- Tokens of text lie in it as some layout says. -/
theorem exists_of_lex {formula : String} {tokens : List Token} (h : lex formula = .ok tokens) :
    ∃ layout : Layout, Fits layout.trailing layout.pieces ∧ layout.text = formula ∧
      layout.tokens = tokens := by
  obtain ⟨layout, hFits, hText, hTokens⟩ := exists_of_lexFrom h
  exact ⟨layout, hFits, hText.trans String.ofList_toList, hTokens⟩

/-- The pieces are placed one behind the other, and the end behind them all. -/
theorem place_eq (trailing : String) (pos : Nat) (pieces : List Piece) :
    ∃ inner, place trailing pos pieces =
        inner ++ [⟨.finish, "", pos + (spell trailing pieces).utf8ByteSize⟩] ∧
      inner.map (fun token => (token.kind, token.text)) =
        pieces.map (fun piece => (piece.kind, piece.text)) := by
  induction pieces generalizing pos with
  | nil => exact ⟨[], rfl, rfl⟩
  | cons piece rest ih =>
      obtain ⟨inner, hPlace, hInner⟩ :=
        ih (pos + piece.gap.utf8ByteSize + piece.text.utf8ByteSize)
      refine ⟨⟨piece.kind, piece.text, pos + piece.gap.utf8ByteSize⟩ :: inner, ?_, ?_⟩
      · simp only [place, spell, String.utf8ByteSize_append]
        rw [hPlace, ← Nat.add_assoc, ← Nat.add_assoc, List.cons_append]
      · simp only [List.map_cons, hInner]

/-- The kinds and lexemes of the tokens are those of the pieces, wherever they stand. -/
theorem map_place (trailing : String) (pos : Nat) (pieces : List Piece) :
    (place trailing pos pieces).map (fun token => (token.kind, token.text)) =
      pieces.map (fun piece => (piece.kind, piece.text)) ++ [(.finish, "")] := by
  obtain ⟨inner, hPlace, hInner⟩ := place_eq trailing pos pieces
  rw [hPlace, List.map_append, hInner]
  rfl

/-- Each piece that fits is a lexeme in front of what follows it. -/
theorem Fits.lexeme {trailing : String} {pieces : List Piece} (h : Fits trailing pieces)
    {piece : Piece} (hMem : piece ∈ pieces) :
    ∃ follow, Lexeme piece.kind piece.text.toList follow := by
  induction pieces with
  | nil => cases hMem
  | cons first rest ih =>
      rcases List.mem_cons.mp hMem with rfl | hRest
      · exact ⟨_, h.1⟩
      · exact ih h.2 hRest

/-- An open string is the last piece, and no blanks come behind it. -/
theorem Fits.follow_eq_nil {trailing : String} {piece : Piece} {rest : List Piece}
    (h : Fits trailing (piece :: rest))
    (hOpen : isOpenString piece.kind piece.text.toList = true) : rest = [] ∧ trailing = "" := by
  have hNil := h.1.follow_eq_nil hOpen
  cases rest with
  | nil => exact ⟨rfl, String.toList_eq_nil_iff.mp hNil⟩
  | cons next _ =>
      obtain ⟨c, tail, hCons, -⟩ := h.2.1.exists_cons
      simp [spell, hCons] at hNil

/-- All tokens but the end are lexemes. -/
theorem Fits.lexeme_of_token {trailing : String} {pos : Nat} {pieces : List Piece}
    (h : Fits trailing pieces) {token : Token} (hMem : token ∈ place trailing pos pieces)
    (hInner : token.isFinish = false) :
    ∃ follow, Lexeme token.kind token.text.toList follow := by
  have hPair : (token.kind, token.text) ∈ pieces.map (fun piece => (piece.kind, piece.text)) ++
      [(.finish, "")] := map_place trailing pos pieces ▸ List.mem_map_of_mem hMem
  rcases List.mem_append.mp hPair with hPiece | hFinish
  · obtain ⟨piece, hPiece, hSame⟩ := List.mem_map.mp hPiece
    obtain ⟨hKind, hText⟩ := Prod.mk.inj hSame
    rw [← hKind, ← hText]
    exact h.lexeme hPiece
  · obtain ⟨hKind, -⟩ := Prod.mk.inj (List.mem_singleton.mp hFinish)
    simp [isFinish, hKind] at hInner

/-- Brackets have the texts that they have. -/
theorem Fits.text_of_bracket {trailing : String} {pos : Nat} {pieces : List Piece}
    (h : Fits trailing pieces) {token : Token} (hMem : token ∈ place trailing pos pieces) :
    (token.kind = .leftParen → token.text = "(") ∧
      (token.kind = .rightParen → token.text = ")") := by
  cases hFinish : token.isFinish with
  | true =>
      have hKind : token.kind = .finish := of_decide_eq_true hFinish
      rw [hKind]
      exact ⟨Kind.noConfusion, Kind.noConfusion⟩
  | false =>
      obtain ⟨follow, hLexeme⟩ := h.lexeme_of_token hMem hFinish
      exact ⟨fun hKind => String.toList_inj.mp (hLexeme.eq_of_bracket.1 hKind),
        fun hKind => String.toList_inj.mp (hLexeme.eq_of_bracket.2 hKind)⟩

/-- A token stands in the text at its place. -/
theorem exists_around {trailing : String} {pos : Nat} {pieces : List Piece} {token : Token}
    (h : token ∈ place trailing pos pieces) :
    ∃ before after, spell trailing pieces = before ++ token.text ++ after ∧
      token.pos = pos + before.utf8ByteSize := by
  induction pieces generalizing pos with
  | nil =>
      obtain rfl := List.mem_singleton.mp h
      exact ⟨trailing, "", by simp [spell], rfl⟩
  | cons piece rest ih =>
      rcases List.mem_cons.mp h with rfl | hRest
      · exact ⟨piece.gap, spell trailing rest, rfl, rfl⟩
      · obtain ⟨before, after, hText, hPos⟩ := ih hRest
        refine ⟨piece.gap ++ piece.text ++ before, after, ?_, ?_⟩
        · simp [spell, hText, String.append_assoc]
        · simp [hPos, String.utf8ByteSize_append, Nat.add_assoc]

/-- Each token stops before the next one begins. -/
theorem place_pairwise {trailing : String} {pieces : List Piece} (h : Fits trailing pieces)
    (pos : Nat) :
    (place trailing pos pieces).Pairwise fun token later =>
      token.pos < later.pos ∧ token.stop ≤ later.pos := by
  induction pieces generalizing pos with
  | nil => exact List.pairwise_singleton _ _
  | cons piece rest ih =>
      refine List.pairwise_cons.mpr ⟨fun later hLater => ?_, ih h.2 _⟩
      obtain ⟨before, -, -, hPos⟩ := exists_around hLater
      have hSome := h.1.utf8ByteSize_pos
      rw [hPos]
      constructor
      · dsimp only
        omega
      · dsimp only [stop]
        omega

end Layout

/-- The bytes of a stretch of text. -/
theorem toUTF8_extract_append (before text after : String) :
    (before ++ text ++ after).toUTF8.extract before.utf8ByteSize
      (before.utf8ByteSize + text.utf8ByteSize) = text.toUTF8 := by
  rw [String.toUTF8_eq_toByteArray, String.toByteArray_append, String.toByteArray_append,
    ByteArray.append_assoc]
  calc (before.toByteArray ++ (text.toByteArray ++ after.toByteArray)).extract
        (before.toByteArray.size + 0) (before.toByteArray.size + text.utf8ByteSize)
      = (text.toByteArray ++ after.toByteArray).extract 0 text.utf8ByteSize :=
        ByteArray.extract_append_size_add
    _ = text.toByteArray := ByteArray.extract_append_eq_left rfl

/-- What the lexer accepts is lexemes with blanks around them and nothing else. The tokens are the
lexemes in their order, each with the bytes that the text has at its place, and after them the
end of the text. -/
theorem lexing_is_lossless {formula : String} {tokens : List Token}
    (h : lex formula = .ok tokens) :
    (∃ inner, tokens = inner ++ [⟨.finish, "", formula.utf8ByteSize⟩] ∧
      ∀ token ∈ inner, token.kind ≠ .finish ∧ token.text ≠ "") ∧
    (∀ token ∈ tokens, formula.toUTF8.extract token.pos token.stop = token.text.toUTF8) ∧
    tokens.Pairwise (fun token later => token.pos < later.pos ∧ token.stop ≤ later.pos) ∧
    ∃ layout : Layout, layout.text = formula ∧ layout.tokens = tokens := by
  obtain ⟨layout, hFits, rfl, rfl⟩ := Layout.exists_of_lex h
  refine ⟨?ending, ?bytes, Layout.place_pairwise hFits 0, layout, rfl, rfl⟩
  case ending =>
    obtain ⟨inner, hPlace, hInner⟩ := Layout.place_eq layout.trailing 0 layout.pieces
    rw [Nat.zero_add] at hPlace
    refine ⟨inner, hPlace, fun token hMem => ?_⟩
    have hPair : (token.kind, token.text) ∈
        layout.pieces.map fun piece => (piece.kind, piece.text) := hInner ▸ List.mem_map_of_mem hMem
    obtain ⟨piece, hPiece, hSame⟩ := List.mem_map.mp hPair
    obtain ⟨hKind, hText⟩ := Prod.mk.inj hSame
    obtain ⟨follow, hLexeme⟩ := hFits.lexeme hPiece
    rw [← hKind, ← hText]
    refine ⟨hLexeme.kind_ne_finish, fun hEmpty => ?_⟩
    obtain ⟨c, tail, hCons, -⟩ := hLexeme.exists_cons
    rw [hEmpty] at hCons
    cases hCons
  case bytes =>
    intro token hMem
    obtain ⟨before, after, hText, hPos⟩ := Layout.exists_around hMem
    rw [Layout.text, hText, stop, hPos, Nat.zero_add]
    exact toUTF8_extract_append before token.text after

/-- A lexer that has an answer is run to get it. -/
theorem lex_eq_ok_of_toOption {formula : String} {tokens : List Token}
    (h : (lex formula).toOption = some tokens) : lex formula = .ok tokens := by
  cases hLex : lex formula <;> rw [hLex] at h <;> cases h
  rfl

/-- A name in braces with blanks of its own, an operator of two characters and a string that ends
with a backslash, all around letters of two bytes. -/
theorem lexing_is_lossless_unclosed :
    let formula := "(\x7b ä \x7d <= 'ö\\"
    let tokens : List Token :=
      [⟨.leftParen, "(", 0⟩, ⟨.field "ä" true, "\x7b ä \x7d", 1⟩,
       ⟨.operator (.comparison .lessEqual), "<=", 8⟩, ⟨.string "ö", "'ö\\", 11⟩,
       ⟨.finish, "", 15⟩]
    lex formula = .ok tokens ∧
      (∀ token ∈ tokens, formula.toUTF8.extract token.pos token.stop = token.text.toUTF8) ∧
      ∃ layout : Layout, layout.text = formula ∧ layout.tokens = tokens := by
  intro formula tokens
  have hLex : lex formula = .ok tokens := lex_eq_ok_of_toOption (by decide +kernel)
  obtain ⟨-, hBytes, -, hLayout⟩ := lexing_is_lossless hLex
  exact ⟨hLex, hBytes, hLayout⟩

end RowFormula.Token
