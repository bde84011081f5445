import RowFormula.Proofs.Number.Written
import RowFormula.Proofs.Token.Layout

/-! Text that the lexer rejects. It fails at the first place where no lexeme begins, and takes apart
what stands before this place as it would alone. Such a place is also met wherever a blank stands
before it, or nothing at all: no lexeme but a string that is open can reach across. -/
namespace RowFormula.Token

open Text (isBlank isLetter isLetterOrNumeral)

/-- The characters that begin a lexeme or a name in braces, whatever follows them. -/
def openers : List Char :=
  ['_', '(', ')', ',', '{', '"', '\'', '>', '<', '=', '+', '-', '*', '/']

/-- Characters with which no lexeme begins, and what is wrong with them at a place. -/
inductive Blocked (pos : Nat) : List Char → SyntaxError → Prop
  | brace {rest} (hOpen : '}' ∉ rest) : Blocked pos ('{' :: rest) (.unterminatedReference pos)
  | character {c rest} (hBlank : isBlank c = false) (hLetter : isLetter c = false)
      (hDigit : c.isDigit = false) (hOpener : c ∉ openers)
      (hPoint : c = '.' → rest.head?.any Char.isDigit = false)
      (hBang : c = '!' → rest.head? ≠ some '=') :
      Blocked pos (c :: rest) (.unexpectedCharacter c pos)

theorem Blocked.exists_cons {pos : Nat} {cs : List Char} {error : SyntaxError}
    (h : Blocked pos cs error) : ∃ c rest, cs = c :: rest ∧ isBlank c = false := by
  cases h with
  | brace => exact ⟨_, _, rfl, by decide⟩
  | character hBlank => exact ⟨_, _, rfl, hBlank⟩

/-- An opener blocks only as a brace. -/
theorem not_blocked_of_mem_openers {pos : Nat} {c : Char} {rest : List Char} {error : SyntaxError}
    (h : c ∈ openers) (hBrace : c ≠ '{') : ¬Blocked pos (c :: rest) error := by
  intro hBlocked
  cases hBlocked with
  | brace => exact hBrace rfl
  | character _ _ _ hOpener => exact hOpener h

/-- Of the marks of operators only an exclamation mark without an equals sign fails. -/
theorem scan_operatorMark_eq_error_iff {pos : Nat} {c : Char} {rest : List Char}
    {error : SyntaxError} (h : c ∈ operatorMarks) :
    scan pos c rest = .error error ↔
      c = '!' ∧ rest.head? ≠ some '=' ∧ error = .unexpectedCharacter c pos := by
  rw [scan_of_mem_operatorMarks h]
  by_cases hBang : c = '!'
  · subst hBang
    have hAlone : operatorKind ['!'] = none := rfl
    have hPair : operatorKind ('!' :: rest.take 1) = none ↔ rest.head? ≠ some '=' := by
      cases rest with
      | nil => simp [hAlone]
      | cons d rest =>
          by_cases hEqual : d = '='
          · subst hEqual
            simp [show operatorKind ['!', '='] ≠ none by decide]
          · have hNone : operatorKind ['!', d] = none :=
              operatorKind_eq_none (Or.inr ⟨by simp, by simpa⟩)
            simp [hNone, hEqual]
    cases hKind : operatorKind ('!' :: rest.take 1) with
    | some kind => simp [← hPair, hKind]
    | none => simp [← hPair, hKind, hAlone, eq_comm]
  · have hAlone : ∀ d ∈ operatorMarks, d ≠ '!' → (operatorKind [d]).isSome = true :=
      forall_mem_of_all (by decide)
    obtain ⟨kind, hKind⟩ := Option.isSome_iff_exists.mp (hAlone c h hBang)
    cases operatorKind (c :: rest.take 1) <;> simp [hKind, hBang]

/-- Of the brackets, the comma, the brace and the quotes only the brace can fail. -/
theorem scan_otherMark_eq_error_iff {pos : Nat} {c : Char} {rest : List Char} {error : SyntaxError}
    (h : c ∈ ['(', ')', ',', '{', '"', '\'']) :
    scan pos c rest = .error error ↔ Blocked pos (c :: rest) error := by
  by_cases hBrace : c = '{'
  · subst hBrace
    constructor
    · intro hScan
      by_cases hClosed : '}' ∈ rest
      · simp [scan, hClosed] at hScan
      · obtain rfl : .unterminatedReference pos = error := by simpa [scan, hClosed] using hScan
        exact .brace hClosed
    · intro hBlocked
      cases hBlocked with
      | brace hOpen => simp [scan, hOpen]
      | character _ _ _ hOpener => exact absurd (by decide) hOpener
  · have hOpener : ∀ d ∈ ['(', ')', ',', '{', '"', '\''], d ∈ openers :=
      forall_mem_of_all (by decide)
    refine iff_of_false ?_ (not_blocked_of_mem_openers (hOpener c h) hBrace)
    simp only [List.mem_cons, List.not_mem_nil, or_false] at h
    rcases h with rfl | rfl | rfl | rfl | rfl | rfl <;> simp [scan] at hBrace ⊢

/-- A character that is no mark fails when it begins neither a number nor a word. -/
theorem scan_unmarked_eq_error_iff {pos : Nat} {c : Char} {rest : List Char} {error : SyntaxError}
    (hBlank : isBlank c = false) (hMark : c ∉ marks) :
    scan pos c rest = .error error ↔ Blocked pos (c :: rest) error := by
  rw [scan_of_not_mem_marks hMark]
  constructor
  · intro hScan
    split at hScan
    · cases hScan
    split at hScan
    · cases hScan
    rename_i hNumber hWord
    cases hScan
    simp only [Bool.or_eq_true, Bool.and_eq_true, decide_eq_true_eq, not_or, not_and,
      Bool.not_eq_true] at hNumber hWord
    have hOpeners : ∀ d ∈ openers, d = '_' ∨ d ∈ marks := forall_mem_of_all (by decide)
    have hOpener : c ∉ openers := fun hMem => (hOpeners c hMem).elim hWord.2 hMark
    have hBang : c ≠ '!' := fun hSame => hMark (hSame ▸ by decide)
    exact .character hBlank hWord.1 hNumber.1 hOpener hNumber.2 fun hSame => absurd hSame hBang
  · intro hBlocked
    cases hBlocked with
    | brace => exact absurd (by decide) hMark
    | character _ hLetter hDigit hOpener hPoint =>
        have hBar : c ≠ '_' := fun hSame => hOpener (hSame ▸ by decide)
        rw [if_neg (by simpa [hDigit] using hPoint), if_neg (by simp [hLetter, hBar])]

/-- A character that is not blank begins a lexeme unless it is blocked. -/
theorem scan_eq_error_iff {pos : Nat} {c : Char} {rest : List Char} {error : SyntaxError}
    (hBlank : isBlank c = false) :
    scan pos c rest = .error error ↔ Blocked pos (c :: rest) error := by
  by_cases hMark : c ∈ marks
  · rcases List.mem_append.mp hMark with hOther | hOperator
    · exact scan_otherMark_eq_error_iff hOther
    rw [scan_operatorMark_eq_error_iff hOperator]
    constructor
    · rintro ⟨rfl, hBang, rfl⟩
      exact .character hBlank (by decide +kernel) rfl (by decide) (by simp) fun _ => hBang
    · intro hBlocked
      have hOpeners : ∀ d ∈ operatorMarks, d ≠ '!' → d ∈ openers ∧ d ≠ '{' :=
        forall_mem_of_all (by decide)
      have hBang : c = '!' := by_contra fun hNot =>
        not_blocked_of_mem_openers (hOpeners c hOperator hNot).1 (hOpeners c hOperator hNot).2
          hBlocked
      subst hBang
      cases hBlocked with
      | character _ _ _ _ _ hBang => exact ⟨rfl, hBang rfl, rfl⟩
  · exact scan_unmarked_eq_error_iff hBlank hMark

/-- The lexer fails where it is blocked. -/
theorem Blocked.lexFrom {pos : Nat} {cs : List Char} {error : SyntaxError}
    (h : Blocked pos cs error) : lexFrom pos cs = .error error := by
  obtain ⟨c, rest, rfl, hBlank⟩ := h.exists_cons
  rw [Token.lexFrom, hBlank, (scan_eq_error_iff hBlank).mpr h]
  rfl

/-- Text that is rejected is blocked somewhere, and up to there it is taken apart. -/
theorem exists_blocked_of_lexFrom {pos : Nat} {cs : List Char} {error : SyntaxError}
    (h : lexFrom pos cs = .error error) :
    ∃ before rest, cs = before ++ rest ∧ (∃ tokens, lexFrom pos before = .ok tokens) ∧
      Blocked (pos + byteLength before) rest error := by
  fun_induction lexFrom pos cs with
  | case1 => cases h
  | case2 pos c rest hBlank ih =>
      obtain ⟨before, after, rfl, ⟨tokens, hTokens⟩, hBlocked⟩ := ih h
      refine ⟨c :: before, after, rfl, ⟨tokens, ?_⟩, ?_⟩
      · rw [Token.lexFrom, if_pos hBlank, hTokens]
      · rwa [byteLength, ← Nat.add_assoc]
  | case3 pos c rest hBlank e hScan =>
      cases h
      have hBlocked := (scan_eq_error_iff (Bool.eq_false_iff.mpr hBlank)).mp hScan
      exact ⟨[], c :: rest, rfl, ⟨_, Token.lexFrom.eq_1 pos⟩, hBlocked⟩
  | case4 pos c rest hBlank kind n hScan lexeme e hLex =>
      rename_i ih
      cases h
      obtain ⟨tail, follow, rfl, rfl, hLexeme⟩ := begins_of_scan hScan
      simp only [lexeme, List.take_left, List.drop_left] at ih hLex
      obtain ⟨before, after, rfl, ⟨tokens, hTokens⟩, hBlocked⟩ := ih hLex
      -- what is cut off behind the lexeme was not part of it
      have hCut : Lexeme kind (c :: tail) before := by
        refine hLexeme.refollow (fun hOpen => ?_) fun d hd => Or.inl ?_
        · exact (List.append_eq_nil_iff.mp (hLexeme.follow_eq_nil hOpen)).1
        · simp [List.head?_append, Option.mem_def.mp hd]
      have hTaken := lexFrom_lexeme pos hCut
      rw [hTokens] at hTaken
      refine ⟨c :: tail ++ before, after, by simp, ⟨_, hTaken⟩, ?_⟩
      rwa [byteLength_append, ← Nat.add_assoc]
  | case5 => cases h

/-! The readings that a lexeme cannot fail to have. -/

/-- The characters that continue a number are digits around the point, if it is among them. -/
theorem exists_digits_of_numberLength {seenPoint : Bool} {tail : List Char}
    (h : numberLength seenPoint tail = tail.length) :
    ∃ whole fraction, (∀ d ∈ whole, d.isDigit = true) ∧ (∀ d ∈ fraction, d.isDigit = true) ∧
      (tail = whole ∧ fraction = [] ∨ seenPoint = false ∧ tail = whole ++ '.' :: fraction) := by
  induction tail generalizing seenPoint with
  | nil => exact ⟨[], [], by simp, by simp, Or.inl ⟨rfl, rfl⟩⟩
  | cons c rest ih =>
      simp only [numberLength, List.length_cons] at h
      split at h
      · rename_i hDigit
        obtain ⟨whole, fraction, hWhole, hFraction, hTail⟩ := ih (Nat.succ.inj h)
        refine ⟨c :: whole, fraction, List.forall_mem_cons.mpr ⟨hDigit, hWhole⟩, hFraction, ?_⟩
        simpa using hTail
      · split at h
        · rename_i hPoint
          obtain ⟨whole, _, hWhole, -, ⟨rfl, -⟩ | ⟨hSeen, -⟩⟩ := ih (Nat.succ.inj h)
          · obtain ⟨rfl, hSeen⟩ : c = '.' ∧ seenPoint = false := by simpa using hPoint
            exact ⟨[], rest, by simp, hWhole, Or.inr ⟨hSeen, rfl⟩⟩
          · cases hSeen
        · cases h

/-- A number has digits, and a point before, between or behind them or none. -/
theorem exists_digits_of_number {c : Char} {tail : List Char}
    (hStart : c.isDigit = true ∨ c = '.' ∧ tail.head?.any Char.isDigit = true)
    (hTail : numberLength (c = '.') tail = tail.length) :
    ∃ whole fraction, (∀ d ∈ whole, d.isDigit = true) ∧ (∀ d ∈ fraction, d.isDigit = true) ∧
      (whole ≠ [] ∨ fraction ≠ []) ∧
      (c :: tail = whole ∧ fraction = [] ∨ c :: tail = whole ++ '.' :: fraction) := by
  obtain ⟨whole, fraction, hWhole, hFraction, hSplit⟩ := exists_digits_of_numberLength hTail
  rcases hStart with hDigit | ⟨rfl, hHead⟩
  · refine ⟨c :: whole, fraction, List.forall_mem_cons.mpr ⟨hDigit, hWhole⟩, hFraction,
      Or.inl (List.cons_ne_nil _ _), ?_⟩
    rcases hSplit with ⟨rfl, rfl⟩ | ⟨-, rfl⟩
    · exact Or.inl ⟨rfl, rfl⟩
    · exact Or.inr rfl
  · rcases hSplit with ⟨rfl, rfl⟩ | ⟨hSeen, -⟩
    · refine ⟨[], tail, by simp, hWhole, Or.inr ?_, Or.inr rfl⟩
      rintro rfl
      simp at hHead
    · simp at hSeen

/-- A number lexeme is decimal text. -/
theorem Lexeme.readDecimal?_eq {kind : Kind} {lexeme follow : List Char}
    (h : Lexeme kind lexeme follow) {x : Float} (hKind : kind = .number x) :
    Number.readDecimal? lexeme = some x := by
  cases h with
  | @number c tail _ hStart hTail =>
      obtain ⟨whole, fraction, hWhole, hFraction, hSome, hSplit⟩ :=
        exists_digits_of_number hStart hTail
      have hRead : ∃ y, Number.readDecimal? (c :: tail) = some y := by
        rcases hSplit with ⟨hSame, rfl⟩ | hSame
        · exact ⟨_, hSame ▸ Number.readDecimal?_whole hWhole (hSome.resolve_right (by simp)) false⟩
        · exact ⟨_, hSame ▸ Number.readDecimal?_point hWhole hFraction hSome false⟩
      obtain ⟨y, hRead⟩ := hRead
      rw [numberValue, hRead] at hKind
      cases hKind
      exact hRead
  | @word c tail =>
      rcases wordKind_cases (String.ofList (c :: tail)) with
        ⟨_, hWord⟩ | ⟨_, hWord⟩ | ⟨_, hWord⟩ | hWord <;> rw [hWord] at hKind <;> cases hKind
  | _ => cases hKind

/-! What stands before a blank. -/

/-- A lexeme that is not an open string does not end with a blank. -/
theorem Lexeme.isBlank_getLast {kind : Kind} {lexeme follow : List Char}
    (h : Lexeme kind lexeme follow) (hClosed : isOpenString kind lexeme = false) :
    ∀ d ∈ lexeme.getLast?, isBlank d = false := by
  intro d hd
  cases h with
  | leftParen | rightParen | comma =>
      obtain rfl : _ = d := by simpa using hd
      decide
  | @reference name =>
      rw [← List.cons_append, List.getLast?_concat] at hd
      obtain rfl : '}' = d := Option.some.inj hd
      decide
  | @string quote body _ hQuote =>
      rw [← List.cons_append, List.getLast?_concat] at hd
      obtain rfl : quote = d := Option.some.inj hd
      rcases hQuote with rfl | rfl <;> decide
  | openString hQuote hBody hEnding =>
      exact absurd (hClosed.symm.trans (isOpenString_of_ending hQuote hBody hEnding _)) (by decide)
  | operator op =>
      obtain ⟨c, tail, hSymbol, hMark, hTail⟩ := symbol_eq_cons op
      have hLast : d ∈ operatorMarks := by
        rw [hSymbol] at hd
        rcases hTail with rfl | rfl
        · obtain rfl : c = d := by simpa using hd
          exact hMark
        · obtain rfl : '=' = d := by simpa using hd
          decide
      exact isBlank_of_mem_marks (List.mem_append_right _ hLast)
  | @number c tail _ hStart hTail =>
      obtain ⟨whole, fraction, hWhole, hFraction, -, hSplit⟩ :=
        exists_digits_of_number hStart hTail
      have hChar : d.isDigit = true ∨ d = '.' := by
        have hMem := List.mem_of_getLast? hd
        rcases hSplit with ⟨hSame, -⟩ | hSame
        · exact Or.inl (hWhole d (hSame ▸ hMem))
        · rw [hSame, List.mem_append, List.mem_cons] at hMem
          rcases hMem with hMem | hMem | hMem
          · exact Or.inl (hWhole d hMem)
          · exact Or.inr hMem
          · exact Or.inl (hFraction d hMem)
      rcases hChar with hDigit | rfl
      · exact isBlank_of_isWordPart (isWordPart_of_isDigit hDigit)
      · decide
  | word hStart hTail =>
      rcases List.mem_cons.mp (List.mem_of_getLast? hd) with rfl | hMem
      · exact isBlank_of_isWordPart (isWordPart_of_wordStart hStart)
      · exact isBlank_of_isWordPart (hTail d hMem)

/-- Behind a blank, or at the start, text that is blocked is rejected. -/
theorem lexFrom_append_of_blocked {pos : Nat} {before rest : List Char} {tokens : List Token}
    {error : SyntaxError} (hLex : lexFrom pos before = .ok tokens)
    (hClosed : ∀ token ∈ tokens.dropLast.getLast?,
      isOpenString token.kind token.text.toList = false)
    (hGap : ∀ d ∈ before.getLast?, isBlank d = true)
    (hBlocked : Blocked (pos + byteLength before) rest error) :
    lexFrom pos (before ++ rest) = .error error := by
  fun_induction lexFrom pos before generalizing tokens with
  | case1 pos => exact hBlocked.lexFrom
  | case2 pos c before hBlank ih =>
      rw [List.cons_append, Token.lexFrom, if_pos hBlank]
      refine ih hLex hClosed (fun d hd => hGap d ?_) (by rwa [Nat.add_assoc])
      simp [List.getLast?_cons, Option.mem_def.mp hd]
  | case3 => cases hLex
  | case4 => cases hLex
  | case5 pos c before hBlank kind n hScan lexeme others hOthers =>
      rename_i ih
      cases hLex
      obtain ⟨tail, follow, rfl, rfl, hLexeme⟩ := begins_of_scan hScan
      simp only [lexeme, List.take_left, List.drop_left] at ih hOthers hClosed
      rw [← List.cons_append] at hGap hBlocked ⊢
      -- the lexeme does not end the text: it would end with a blank
      have hSome : follow ≠ [] := by
        rintro rfl
        rw [Token.lexFrom] at hOthers
        cases hOthers
        have hLast := hLexeme.isBlank_getLast (by simpa using hClosed)
        have hEnd := List.getLast?_eq_some_getLast (List.cons_ne_nil c tail)
        rw [List.append_nil] at hGap
        exact Bool.false_ne_true ((hLast _ hEnd).symm.trans (hGap _ hEnd))
      have hLonger : Lexeme kind (c :: tail) (follow ++ rest) := by
        refine hLexeme.refollow (fun hOpen => absurd (hLexeme.follow_eq_nil hOpen) hSome)
          fun d hd => Or.inl ?_
        rwa [List.head?_append_of_ne_nil _ hSome] at hd
      have hLater : lexFrom (pos + byteLength (c :: tail)) (follow ++ rest) = .error error := by
        refine ih hOthers (fun token hToken => hClosed token ?_) (fun d hd => hGap d ?_) ?_
        · cases others with
          | nil => cases hToken
          | cons other others =>
              rw [List.dropLast_cons_of_ne_nil (List.cons_ne_nil _ _), List.getLast?_cons,
                Option.mem_def.mp hToken]
              rfl
        · rw [List.getLast?_append, Option.mem_def.mp hd]
          rfl
        · rwa [Nat.add_assoc, ← byteLength_append]
      rw [List.append_assoc, lexFrom_lexeme pos hLonger, hLater]
      rfl

/-- Text that is lexed has in each number lexeme decimal text of the number. -/
theorem readDecimal?_of_lex {formula : String} {tokens : List Token}
    (h : lex formula = .ok tokens) {token : Token} (hMem : token ∈ tokens) {x : Float}
    (hKind : token.kind = .number x) : Number.readDecimal? token.text.toList = some x := by
  obtain ⟨layout, hFits, rfl, rfl⟩ := Layout.exists_of_lex h
  have hInner : token.isFinish = false := by simp [isFinish, hKind]
  obtain ⟨follow, hLexeme⟩ := hFits.lexeme_of_token hMem hInner
  exact hLexeme.readDecimal?_eq hKind

/-- All text is either lexed, each number lexeme to the number that it is read as, or rejected at a
place where no lexeme begins and up to which it is lexed. And it is rejected at each such place with
nothing before it, or with text before it that is lexed, ends with a blank and has no open string at
its end. -/
theorem rejected_where_blocked (formula : String) :
    ((∃ tokens, lex formula = .ok tokens ∧ ∀ token ∈ tokens, ∀ x, token.kind = .number x →
        Number.readDecimal? token.text.toList = some x) ∨
      ∃ before rest error, formula = before ++ rest ∧ lex formula = .error error ∧
        (∃ tokens, lex before = .ok tokens) ∧
        Blocked before.utf8ByteSize rest.toList error) ∧
    ∀ before rest error, formula = before ++ rest →
      (before = "" ∨ ∃ tokens, lex before = .ok tokens ∧
        (∀ token ∈ tokens.dropLast.getLast?, isOpenString token.kind token.text.toList = false) ∧
        ∃ c ∈ before.toList.getLast?, isBlank c = true) →
      Blocked before.utf8ByteSize rest.toList error → lex formula = .error error := by
  constructor
  · cases hLex : lex formula with
    | ok tokens =>
        exact Or.inl ⟨tokens, rfl, fun _ hMem _ hKind => readDecimal?_of_lex hLex hMem hKind⟩
    | error error =>
        obtain ⟨before, rest, hSplit, ⟨tokens, hTokens⟩, hBlocked⟩ := exists_blocked_of_lexFrom hLex
        refine Or.inr ⟨String.ofList before, String.ofList rest, error, ?_, rfl, ⟨tokens, ?_⟩, ?_⟩
        · rw [← String.ofList_append, ← hSplit, String.ofList_toList]
        · rwa [lex, String.toList_ofList]
        · rwa [String.toList_ofList, ← byteLength_eq, ← Nat.zero_add (byteLength before)]
  · rintro before rest error rfl hBefore hBlocked
    rw [lex, String.toList_append]
    have hPlace : Blocked (0 + byteLength before.toList) rest.toList error := by
      rwa [byteLength_eq, String.ofList_toList, Nat.zero_add]
    rcases hBefore with rfl | ⟨tokens, hLex, hClosed, c, hLast, hBlank⟩
    · exact hPlace.lexFrom
    · refine lexFrom_append_of_blocked hLex hClosed (fun d hd => ?_) hPlace
      obtain rfl := Option.some.inj ((Option.mem_def.mp hLast).symm.trans hd)
      exact hBlank

/-- A point that no digit follows, behind letters, a numeral and a blank, and a brace that is never
closed at the start. In a string that is open they are not met. -/
theorem rejected_where_blocked_point :
    lex "ä² .x" = .error (.unexpectedCharacter '.' 5) ∧
      lex "\x7b5" = .error (.unterminatedReference 0) ∧
      lex "'ä² .\x7b5" = .ok [⟨.string "ä² .\x7b5", "'ä² .\x7b5", 0⟩, ⟨.finish, "", 9⟩] := by
  have hWord : lex "ä² " = .ok [⟨.field "ä²" false, "ä²", 0⟩, ⟨.finish, "", 5⟩] :=
    lex_eq_ok_of_toOption (by decide +kernel)
  have hClosed : isOpenString (.field "ä²" false) "ä²".toList = false := rfl
  have hGap : ∃ c ∈ "ä² ".toList.getLast?, isBlank c = true := ⟨' ', by decide, by decide⟩
  have hPoint : Blocked "ä² ".utf8ByteSize ".x".toList (.unexpectedCharacter '.' 5) :=
    .character (by decide) (by decide +kernel) (by decide) (by decide) (by decide) (by decide)
  have hBrace : Blocked "".utf8ByteSize "\x7b5".toList (.unterminatedReference 0) :=
    .brace (by decide)
  exact ⟨(rejected_where_blocked _).2 "ä² " ".x" _ rfl
      (Or.inr ⟨_, hWord, by simpa using hClosed, hGap⟩) hPoint,
    (rejected_where_blocked _).2 "" "\x7b5" _ rfl (Or.inl rfl) hBrace,
    lex_eq_ok_of_toOption (by decide +kernel)⟩

end RowFormula.Token
