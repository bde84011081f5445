import RowFormula.Proofs.Token.Scanner

/-! What a lexeme is, said of its own characters and of what follows them. The lexer takes the
characters at the start of some text for a lexeme exactly when they are one there. Of what follows
only the first character matters, and only where the lexeme could go on with it. -/
namespace RowFormula.Token

open Text (exists_run isBlank isLetter isLetterOrNumeral takeWhile_run trimChars)

/-- Whether a lexeme of a kind is a string without its closing quote. -/
def isOpenString : Kind → List Char → Bool
  | .string _, quote :: body => lacksQuote quote body
  | _, _ => false

/-- Characters that are a lexeme of a kind in front of some others. -/
inductive Lexeme : Kind → List Char → List Char → Prop
  | leftParen (follow : List Char) : Lexeme .leftParen ['('] follow
  | rightParen (follow : List Char) : Lexeme .rightParen [')'] follow
  | comma (follow : List Char) : Lexeme .comma [','] follow
  | reference {name} (hName : '}' ∉ name) (follow : List Char) :
      Lexeme (.field (String.ofList (trimChars name)) true) ('{' :: (name ++ ['}'])) follow
  | string {quote body content} (hQuote : quote = '"' ∨ quote = '\'')
      (h : Quoted quote body content) (follow : List Char) :
      Lexeme (.string (String.ofList content)) (quote :: (body ++ [quote])) follow
  /-- A string without its closing quote takes all that is left, and a backslash at its end stands
  for nothing. -/
  | openString {quote body content ending} (hQuote : quote = '"' ∨ quote = '\'')
      (h : Quoted quote body content) (hEnding : ending = [] ∨ ending = ['\\']) :
      Lexeme (.string (String.ofList content)) (quote :: (body ++ ending)) []
  /-- Of two operators the longer one is taken. -/
  | operator (op : BinaryOp) {follow}
      (hStop : ∀ d ∈ follow.head?, operatorKind (op.symbol.toList ++ [d]) = none) :
      Lexeme (.operator op) op.symbol.toList follow
  | number {c tail follow}
      (hStart : c.isDigit = true ∨ c = '.' ∧ tail.head?.any Char.isDigit = true)
      (hTail : numberLength (c = '.') tail = tail.length)
      (hStop : ∀ d ∈ follow.head?, d.isDigit = false ∧ (d = '.' → '.' ∈ c :: tail)) :
      Lexeme (.number (numberValue (c :: tail))) (c :: tail) follow
  | word {c tail follow} (hStart : isLetter c = true ∨ c = '_')
      (hTail : ∀ d ∈ tail, isWordPart d = true)
      (hStop : ∀ d ∈ follow.head?, isWordPart d = false) :
      Lexeme (wordKind (String.ofList (c :: tail))) (c :: tail) follow

/-- Without a mark in front there can only be a number or a word. -/
theorem scan_of_not_mem_marks {c : Char} (h : c ∉ marks) (pos : Nat) (rest : List Char) :
    scan pos c rest =
      if c.isDigit || (c = '.' && rest.head?.any Char.isDigit) then
        .ok (.number (numberValue (c :: rest.take (numberLength (c = '.') rest))),
          numberLength (c = '.') rest)
      else if isLetter c || c = '_' then
        .ok (wordKind (String.ofList (c :: rest.takeWhile isWordPart)),
          (rest.takeWhile isWordPart).length)
      else .error (.unexpectedCharacter c pos) := by
  have hTake : rest.take (rest.takeWhile isWordPart).length = rest.takeWhile isWordPart :=
    (List.prefix_iff_eq_take.mp (List.takeWhile_prefix _)).symm
  simp only [marks, List.mem_append, not_or] at h
  have hOperator : ∀ tail, operatorKind (c :: tail) = none := fun _ =>
    operatorKind_eq_none (Or.inl h.2)
  simp only [List.mem_cons, List.not_mem_nil, or_false, not_or] at h
  simp only [scan, h, hOperator, hTake, if_false, or_self]

/-- With the mark of an operator in front there can only be an operator, the longer one if there is
a choice. -/
theorem scan_of_mem_operatorMarks {c : Char} (h : c ∈ operatorMarks) (pos : Nat)
    (rest : List Char) :
    scan pos c rest =
      match operatorKind (c :: rest.take 1) with
      | some kind => .ok (kind, (rest.take 1).length)
      | none =>
        match operatorKind [c] with
        | some kind => .ok (kind, 0)
        | none => .error (.unexpectedCharacter c pos) := by
  have hMarks : ∀ d ∈ operatorMarks,
      (d ≠ '(' ∧ d ≠ ')' ∧ d ≠ ',' ∧ d ≠ '{' ∧ d ≠ '"' ∧ d ≠ '\'') ∧
        d.isDigit = false ∧ d ≠ '.' ∧ isLetter d = false ∧ d ≠ '_' :=
    forall_mem_of_all (by decide +kernel)
  obtain ⟨hOther, hDigit, hPoint, hLetter, hBar⟩ := hMarks c h
  cases hLong : operatorKind (c :: rest.take 1) with
  | some kind => simp only [scan, hOther, hLong, if_false, or_self]
  | none =>
      cases hShort : operatorKind [c] with
      | some kind => simp only [scan, hOther, hLong, hShort, if_false, or_self]
      | none =>
          simp only [scan, hOther, hLong, hShort, hDigit, hPoint, hLetter, hBar, if_false, or_self,
            decide_false, Bool.false_and, Bool.or_self, Bool.false_eq_true]

/-- A quote takes what the scan of a string takes. -/
theorem scan_quote {c : Char} (h : c = '"' ∨ c = '\'') (pos : Nat) (rest : List Char) :
    scan pos c rest =
      .ok (.string (String.ofList (scanString c rest).1), (scanString c rest).2) := by
  rcases h with rfl | rfl <;> rfl

/-- The symbol of an operator is scanned where it cannot go on. -/
theorem scan_symbol (pos : Nat) {op : BinaryOp} {c : Char} {tail follow : List Char}
    (hSymbol : op.symbol.toList = c :: tail)
    (hStop : ∀ d ∈ follow.head?, operatorKind (op.symbol.toList ++ [d]) = none) :
    scan pos c (tail ++ follow) = .ok (.operator op, tail.length) := by
  obtain ⟨first, others, hCons, hMark, hTail⟩ := symbol_eq_cons op
  obtain ⟨rfl, rfl⟩ := List.cons.inj (hSymbol.symm.trans hCons)
  have hKind := (operatorKind_eq_some_iff op.symbol.toList _).mpr ⟨op, rfl, rfl⟩
  rw [hSymbol] at hKind hStop
  rw [scan_of_mem_operatorMarks hMark]
  rcases hTail with rfl | rfl
  · cases follow with
    | nil => simp [hKind]
    | cons d rest =>
        have hNone : operatorKind [c, d] = none := hStop d rfl
        simp [hNone, hKind]
  · simp [hKind]

/-- The lexer takes a lexeme for what it is. -/
theorem scan_of_lexeme (pos : Nat) {kind : Kind} {c : Char} {tail follow : List Char}
    (h : Lexeme kind (c :: tail) follow) :
    scan pos c (tail ++ follow) = .ok (kind, tail.length) := by
  generalize hLexeme : c :: tail = lexeme at h
  cases h with
  | leftParen => cases hLexeme; simp [scan]
  | rightParen => cases hLexeme; simp [scan]
  | comma => cases hLexeme; simp [scan]
  | @reference name hName =>
      cases hLexeme
      have hRun : (name ++ '}' :: follow).takeWhile (fun d => !decide (d = '}')) = name :=
        takeWhile_run (fun d hd => by simpa using ne_of_mem_of_not_mem hd hName) (by simp)
      simp [scan, hRun]
  | @string quote body content hQuote hBody =>
      cases hLexeme
      have hEscape : c ≠ '\\' := by rcases hQuote with rfl | rfl <;> decide
      have hScan := hBody.scanString_append hEscape (c :: follow)
      rw [scanString_quote] at hScan
      simp [scan_quote hQuote, hScan]
  | @openString quote body content ending hQuote hBody hEnding =>
      cases hLexeme
      have hEscape : c ≠ '\\' := by rcases hQuote with rfl | rfl <;> decide
      have hScan := hBody.scanString_append hEscape ending
      have hEnd : scanString c ending = ([], ending.length) := by
        rcases hEnding with rfl | rfl <;> simp [scanString]
      rw [hEnd] at hScan
      simp [scan_quote hQuote, hScan]
  | operator op hStop => exact scan_symbol pos hLexeme.symm hStop
  | number hStart hTail hStop =>
      cases hLexeme
      have hMark : c ∉ marks := by
        rcases hStart with hDigit | ⟨rfl, -⟩
        · exact not_mem_marks_of_isDigit hDigit
        · decide
      have hLength : numberLength (c = '.') (tail ++ follow) = tail.length :=
        numberLength_append hTail fun d hd =>
          ⟨(hStop d hd).1, fun h => by simpa [eq_comm] using (hStop d hd).2 h⟩
      have hNumber :
          (c.isDigit || (c = '.' && (tail ++ follow).head?.any Char.isDigit)) = true := by
        rcases hStart with hDigit | ⟨rfl, hHead⟩
        · simp [hDigit]
        · cases tail with
          | nil => simp at hHead
          | cons d rest => simpa using hHead
      rw [scan_of_not_mem_marks hMark, if_pos hNumber, hLength, List.take_left]
  | word hStart hTail hStop =>
      cases hLexeme
      obtain ⟨hDigit, hPoint⟩ := not_number_of_wordStart hStart
      have hNumber :
          ¬(c.isDigit || (c = '.' && (tail ++ follow).head?.any Char.isDigit)) = true := by
        simp [hDigit, hPoint]
      have hWord : (isLetter c || c = '_') = true := by simpa using hStart
      rw [scan_of_not_mem_marks (not_mem_marks_of_wordStart hStart), if_neg hNumber,
        if_pos hWord, takeWhile_run hTail hStop]

/-- A text that begins with a lexeme: its first character, `n` others and what follows them. -/
def Begins (kind : Kind) (n : Nat) (c : Char) (rest : List Char) : Prop :=
  ∃ tail follow, rest = tail ++ follow ∧ n = tail.length ∧ Lexeme kind (c :: tail) follow

section Begins

variable {pos : Nat} {c : Char} {rest : List Char} {kind : Kind} {n : Nat}

/-- A brace that is closed begins a reference. -/
theorem begins_of_scan_brace (h : scan pos '{' rest = .ok (kind, n)) : Begins kind n '{' rest := by
  change (if '}' ∈ rest then Except.ok _ else Except.error _) = _ at h
  split at h
  case isTrue hClosed =>
    cases h
    obtain ⟨name, follow, hName, hSplit, hInside⟩ := exists_reference hClosed
    rw [hName]
    exact ⟨name ++ ['}'], follow, by simp [hSplit], by simp, .reference hInside follow⟩
  case isFalse => cases h

/-- A quote begins a string, closed or not. -/
theorem begins_of_scan_quote (hQuote : c = '"' ∨ c = '\'') (h : scan pos c rest = .ok (kind, n)) :
    Begins kind n c rest := by
  rw [scan_quote hQuote] at h
  cases h
  obtain ⟨body, hBody, ⟨follow, rfl, hLength⟩ | ⟨ending, hEnding, rfl, hLength⟩⟩ :=
    exists_quoted c rest
  · exact ⟨body ++ [c], follow, by simp, hLength, .string hQuote hBody follow⟩
  · exact ⟨body ++ ending, [], by simp, hLength, .openString hQuote hBody hEnding⟩

/-- The mark of an operator begins an operator, the longer one if there is a choice. -/
theorem begins_of_scan_operatorMark (hMark : c ∈ operatorMarks)
    (h : scan pos c rest = .ok (kind, n)) : Begins kind n c rest := by
  rw [scan_of_mem_operatorMarks hMark] at h
  cases hLong : operatorKind (c :: rest.take 1) with
  | some long =>
      simp only [hLong] at h
      cases h
      obtain ⟨op, rfl, hSymbol⟩ := (operatorKind_eq_some_iff _ _).mp hLong
      refine ⟨rest.take 1, rest.drop 1, (List.take_append_drop 1 rest).symm, rfl, ?_⟩
      rw [hSymbol]
      refine .operator op fun d hd => ?_
      -- with one more character the symbol would have three
      rw [← hSymbol]
      cases rest with
      | nil => cases hd
      | cons _ _ => exact operatorKind_eq_none (Or.inr (by simp))
  | none =>
      cases hShort : operatorKind [c] with
      | some short =>
          simp only [hLong, hShort] at h
          cases h
          obtain ⟨op, rfl, hSymbol⟩ := (operatorKind_eq_some_iff _ _).mp hShort
          refine ⟨[], rest, rfl, rfl, ?_⟩
          rw [hSymbol]
          refine .operator op fun d hd => ?_
          rw [← hSymbol]
          cases rest with
          | nil => cases hd
          | cons _ _ =>
              cases hd
              exact hLong
      | none =>
          simp only [hLong, hShort] at h
          cases h

/-- A digit, or a point in front of one, begins a number. -/
theorem begins_number (hStart : (c.isDigit || (c = '.' && rest.head?.any Char.isDigit)) = true) :
    Begins (.number (numberValue (c :: rest.take (numberLength (c = '.') rest))))
      (numberLength (c = '.') rest) c rest := by
  obtain ⟨tail, follow, rfl, hLength, hTail, hStop⟩ := exists_numberLength (c = '.') rest
  rw [hLength, List.take_left]
  refine ⟨tail, follow, rfl, rfl, .number ?_ hTail fun d hd => ?_⟩
  · rcases Bool.or_eq_true_iff.mp hStart with hDigit | hPoint
    · exact Or.inl hDigit
    · obtain ⟨hc, hHead⟩ := Bool.and_eq_true_iff.mp hPoint
      refine Or.inr ⟨of_decide_eq_true hc, ?_⟩
      cases tail with
      | nil =>
          obtain ⟨d, hd, hDigit⟩ := (Option.any_eq_true _ _).mp hHead
          exact absurd hDigit (by simp [(hStop d hd).1])
      | cons _ _ => exact hHead
  · exact ⟨(hStop d hd).1, fun h => by simpa [eq_comm] using (hStop d hd).2 h⟩

/-- A letter or an underscore begins a word. -/
theorem begins_word (hStart : isLetter c = true ∨ c = '_') :
    Begins (wordKind (String.ofList (c :: rest.takeWhile isWordPart)))
      (rest.takeWhile isWordPart).length c rest := by
  obtain ⟨tail, follow, hTail, rfl, hRun, hStop⟩ := exists_run isWordPart rest
  rw [hTail]
  exact ⟨tail, follow, rfl, rfl, .word hStart hRun hStop⟩

/-- Without a mark in front there is a number or a word. -/
theorem begins_of_scan_unmarked (hMark : c ∉ marks) (h : scan pos c rest = .ok (kind, n)) :
    Begins kind n c rest := by
  rw [scan_of_not_mem_marks hMark] at h
  split at h
  case isTrue hNumber =>
    cases h
    exact begins_number hNumber
  case isFalse =>
    split at h
    case isTrue hWord =>
      cases h
      exact begins_word (by simpa using hWord)
    case isFalse => cases h

/-- What the lexer takes is a lexeme in front of what it leaves. -/
theorem begins_of_scan (h : scan pos c rest = .ok (kind, n)) : Begins kind n c rest := by
  by_cases hMark : c ∈ marks
  case neg => exact begins_of_scan_unmarked hMark h
  case pos =>
    rcases List.mem_append.mp hMark with hOther | hOperator
    · simp only [List.mem_cons, List.not_mem_nil, or_false] at hOther
      rcases hOther with rfl | rfl | rfl | rfl | hQuote
      · cases h
        exact ⟨[], rest, rfl, rfl, .leftParen rest⟩
      · cases h
        exact ⟨[], rest, rfl, rfl, .rightParen rest⟩
      · cases h
        exact ⟨[], rest, rfl, rfl, .comma rest⟩
      · exact begins_of_scan_brace h
      · exact begins_of_scan_quote hQuote h
    · exact begins_of_scan_operatorMark hOperator h

end Begins

/-! What is true of all lexemes. -/

/-- A word is an operator, a truth value, the name of a function or else a field. -/
theorem wordKind_cases (word : String) :
    (∃ op, wordKind word = .logical op) ∨ (∃ b, wordKind word = .bool b) ∨
      (∃ name, wordKind word = .function name) ∨ wordKind word = .field word false := by
  unfold wordKind
  split
  · exact Or.inl ⟨_, rfl⟩
  · exact Or.inl ⟨_, rfl⟩
  · exact Or.inl ⟨_, rfl⟩
  · exact Or.inr (Or.inl ⟨_, rfl⟩)
  · exact Or.inr (Or.inl ⟨_, rfl⟩)
  · split
    · exact Or.inr (Or.inr (Or.inl ⟨_, rfl⟩))
    · exact Or.inr (Or.inr (Or.inr rfl))

/-- A lexeme does not begin with a blank. -/
theorem Lexeme.exists_cons {kind : Kind} {lexeme follow : List Char}
    (h : Lexeme kind lexeme follow) : ∃ c tail, lexeme = c :: tail ∧ isBlank c = false := by
  cases h with
  | leftParen => exact ⟨_, _, rfl, by decide⟩
  | rightParen => exact ⟨_, _, rfl, by decide⟩
  | comma => exact ⟨_, _, rfl, by decide⟩
  | reference => exact ⟨_, _, rfl, by decide⟩
  | string hQuote => exact ⟨_, _, rfl, by rcases hQuote with rfl | rfl <;> decide⟩
  | openString hQuote => exact ⟨_, _, rfl, by rcases hQuote with rfl | rfl <;> decide⟩
  | operator op =>
      obtain ⟨c, tail, hSymbol, hMark, -⟩ := symbol_eq_cons op
      exact ⟨c, tail, hSymbol, isBlank_of_mem_marks (List.mem_append_right _ hMark)⟩
  | number hStart =>
      refine ⟨_, _, rfl, ?_⟩
      rcases hStart with hDigit | ⟨rfl, -⟩
      · exact isBlank_of_isWordPart (isWordPart_of_isDigit hDigit)
      · decide
  | word hStart => exact ⟨_, _, rfl, isBlank_of_isWordPart (isWordPart_of_wordStart hStart)⟩

/-- No lexeme is the end of the formula. -/
theorem Lexeme.kind_ne_finish {kind : Kind} {lexeme follow : List Char}
    (h : Lexeme kind lexeme follow) : kind ≠ .finish := by
  cases h with
  | @word c tail =>
      rcases wordKind_cases (String.ofList (c :: tail)) with
        ⟨_, hKind⟩ | ⟨_, hKind⟩ | ⟨_, hKind⟩ | hKind <;> rw [hKind] <;> exact Kind.noConfusion
  | _ => exact Kind.noConfusion

/-- A bracket is written in one way. -/
theorem Lexeme.eq_of_bracket {kind : Kind} {lexeme follow : List Char}
    (h : Lexeme kind lexeme follow) :
    (kind = .leftParen → lexeme = ['(']) ∧ (kind = .rightParen → lexeme = [')']) := by
  cases h with
  | leftParen => exact ⟨fun _ => rfl, Kind.noConfusion⟩
  | rightParen => exact ⟨Kind.noConfusion, fun _ => rfl⟩
  | @word c tail =>
      rcases wordKind_cases (String.ofList (c :: tail)) with
        ⟨_, hWord⟩ | ⟨_, hWord⟩ | ⟨_, hWord⟩ | hWord <;> rw [hWord] <;>
        exact ⟨Kind.noConfusion, Kind.noConfusion⟩
  | _ => exact ⟨Kind.noConfusion, Kind.noConfusion⟩

/-- A string without its closing quote is open. -/
theorem isOpenString_of_ending {quote : Char} (hQuote : quote = '"' ∨ quote = '\'')
    {body content ending : List Char} (h : Quoted quote body content)
    (hEnding : ending = [] ∨ ending = ['\\']) (s : String) :
    isOpenString (.string s) (quote :: (body ++ ending)) = true := by
  have hEscape : quote ≠ '\\' := by rcases hQuote with rfl | rfl <;> decide
  rw [isOpenString, h.lacksQuote_append hEscape]
  rcases hEnding with rfl | rfl
  · rfl
  · simp [lacksQuote, hEscape.symm]

/-- Nothing comes behind a string without its closing quote. -/
theorem Lexeme.follow_eq_nil {kind : Kind} {lexeme follow : List Char}
    (h : Lexeme kind lexeme follow) (hOpen : isOpenString kind lexeme = true) : follow = [] := by
  cases h with
  | openString => rfl
  | @string quote body content hQuote hBody =>
      have hEscape : quote ≠ '\\' := by rcases hQuote with rfl | rfl <;> decide
      rw [isOpenString, hBody.lacksQuote_append hEscape] at hOpen
      simp [lacksQuote] at hOpen
  | @word c tail =>
      rcases wordKind_cases (String.ofList (c :: tail)) with
        ⟨_, hKind⟩ | ⟨_, hKind⟩ | ⟨_, hKind⟩ | hKind <;> rw [hKind] at hOpen <;> cases hOpen
  | _ => cases hOpen

/-- What follows a lexeme may change to what begins alike or with a character that separates. Only
behind a string that is open nothing may come. -/
theorem Lexeme.refollow {kind : Kind} {lexeme follow follow' : List Char}
    (h : Lexeme kind lexeme follow) (hOpen : isOpenString kind lexeme = true → follow' = [])
    (hFollow : ∀ d ∈ follow'.head?, d ∈ follow.head? ∨ separates d = true) :
    Lexeme kind lexeme follow' := by
  cases h with
  | leftParen => exact .leftParen follow'
  | rightParen => exact .rightParen follow'
  | comma => exact .comma follow'
  | reference hName => exact .reference hName follow'
  | string hQuote hBody => exact .string hQuote hBody follow'
  | @openString quote body content ending hQuote hBody hEnding =>
      rw [hOpen (isOpenString_of_ending hQuote hBody hEnding _)]
      exact .openString hQuote hBody hEnding
  | operator op hStop =>
      refine .operator op fun d hd => (hFollow d hd).elim (hStop d) fun hSeparates => ?_
      obtain ⟨c, tail, hSymbol, -⟩ := symbol_eq_cons op
      have hEqual : d ≠ '=' := by
        rintro rfl
        simp [separates] at hSeparates
      rw [hSymbol, List.cons_append]
      exact operatorKind_eq_none (Or.inr ⟨by simp, by simp [List.append_eq_cons_iff, hEqual]⟩)
  | number hStart hTail hStop =>
      refine .number hStart hTail fun d hd => (hFollow d hd).elim (hStop d) fun hSeparates => ?_
      simp only [separates, isWordPart, isLetterOrNumeral, Bool.and_eq_true, Bool.not_eq_true',
        Bool.or_eq_false_iff, decide_eq_true_eq] at hSeparates
      exact ⟨hSeparates.1.1.1.1.2, fun hPoint => absurd hPoint hSeparates.1.2⟩
  | word hStart hTail hStop =>
      refine .word hStart hTail fun d hd => (hFollow d hd).elim (hStop d) fun hSeparates => ?_
      simp only [separates, Bool.and_eq_true, Bool.not_eq_true'] at hSeparates
      exact hSeparates.1.1

end RowFormula.Token
