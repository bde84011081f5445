import RowFormula.Entries
import RowFormula.Formula.Token.Lexer
import RowFormula.Proofs.Text.Run

/-! The scanners of the lexer, each with what it takes and where it stops: runs of characters of one
sort, numbers with at most one point, strings with their escapes, and operators. -/
namespace RowFormula

open Text (exists_run isBlank isLetter isLetterOrNumeral)

/-- A symbol stands for the operator that it is the symbol of. -/
theorem BinaryOp.ofSymbol?_eq_some_iff (symbol : String) (op : BinaryOp) :
    ofSymbol? symbol = some op ↔ symbol = op.symbol := by
  constructor
  · intro h
    have hSymbols : ∀ entry ∈ symbols, entry.1 = entry.2.symbol := by decide
    exact hSymbols _ (Entries.mem_of_lookup h)
  · rintro rfl
    exact ofSymbol?_symbol op

namespace Token

/-- The characters that begin an operator. -/
def operatorMarks : List Char := ['+', '-', '*', '/', '=', '!', '<', '>']

/-- The characters that begin a lexeme other than a number or a word. -/
def marks : List Char := ['(', ')', ',', '{', '"', '\''] ++ operatorMarks

/-- A character that never belongs to a lexeme that began before it, strings and names in braces
left aside. -/
def separates (c : Char) : Bool := !isWordPart c && c ≠ '.' && c ≠ '='

/-- The characters of a string between its quotes, and what they stand for. -/
inductive Quoted (quote : Char) : List Char → List Char → Prop
  | nil : Quoted quote [] []
  | plain {c body content} (hQuote : c ≠ quote) (hEscape : c ≠ '\\')
      (h : Quoted quote body content) : Quoted quote (c :: body) (c :: content)
  | escaped {body content} (c : Char) (h : Quoted quote body content) :
      Quoted quote ('\\' :: c :: body) (unescape c :: content)

/-- Whether no closing quote comes among the characters after the opening one. -/
def lacksQuote (quote : Char) : List Char → Bool
  | [] => true
  | c :: rest =>
    if c = quote then false
    else if c = '\\' then
      match rest with
      | [] => true
      | _ :: rest => lacksQuote quote rest
    else lacksQuote quote rest

/-! Sorts of characters. -/

/-- To check the members of a list is to check the list, not all values of their type. -/
theorem forall_mem_of_all {α : Type} {members : List α} {p : α → Prop} [DecidablePred p]
    (h : members.all (fun a => decide (p a)) = true) : ∀ a ∈ members, p a :=
  fun a ha => of_decide_eq_true (List.all_eq_true.mp h a ha)

theorem isWordPart_of_isBlank {c : Char} (h : isBlank c = true) : isWordPart c = false := by
  let codes := List.range' 0x9 5 ++ [0x20, 0x85, 0xA0, 0x1680] ++ List.range' 0x2000 11 ++
    [0x2028, 0x2029, 0x202F, 0x205F, 0x3000]
  have hCodes : ∀ n ∈ codes, isWordPart (Char.ofNat n) = false := by decide +kernel
  have hMem : c.toNat ∈ codes := by
    simp only [isBlank, Text.inRanges, List.any_cons, List.any_nil, Bool.or_false, Bool.or_eq_true,
      Bool.and_eq_true, decide_eq_true_eq] at h
    simp only [codes, List.mem_append, List.mem_range'_1, List.mem_cons, List.not_mem_nil, or_false]
    omega
  simpa using hCodes _ hMem

/-- A word has no blanks. -/
theorem isBlank_of_isWordPart {c : Char} (h : isWordPart c = true) : isBlank c = false :=
  Bool.eq_false_iff.mpr fun hBlank =>
    Bool.false_ne_true ((isWordPart_of_isBlank hBlank).symm.trans h)

theorem isWordPart_of_isDigit {c : Char} (h : c.isDigit = true) : isWordPart c = true := by
  simp [isWordPart, isLetterOrNumeral, h]

theorem isWordPart_of_wordStart {c : Char} (h : isLetter c = true ∨ c = '_') :
    isWordPart c = true := by
  rcases h with hLetter | rfl
  · simp [isWordPart, isLetterOrNumeral, hLetter]
  · simp [isWordPart]

theorem isBlank_of_mem_marks {c : Char} (h : c ∈ marks) : isBlank c = false := by
  have hMarks : ∀ mark ∈ marks, isBlank mark = false := forall_mem_of_all (by decide)
  exact hMarks c h

/-- Blanks separate. -/
theorem separates_of_isBlank {c : Char} (h : isBlank c = true) : separates c = true := by
  have hPoint : c ≠ '.' := by
    rintro rfl
    exact absurd h (by decide)
  have hEqual : c ≠ '=' := by
    rintro rfl
    exact absurd h (by decide)
  simp [separates, isWordPart_of_isBlank h, hPoint, hEqual]

theorem not_mem_marks_of_isDigit {c : Char} (h : c.isDigit = true) : c ∉ marks := by
  have hMarks : ∀ mark ∈ marks, mark.isDigit = false := forall_mem_of_all (by decide)
  exact fun hMem => Bool.false_ne_true ((hMarks c hMem).symm.trans h)

theorem not_mem_marks_of_wordStart {c : Char} (h : isLetter c = true ∨ c = '_') : c ∉ marks := by
  have hMarks : ∀ mark ∈ marks, ¬(isLetter mark = true ∨ mark = '_') :=
    forall_mem_of_all (by decide +kernel)
  exact fun hMem => hMarks c hMem h

/-- What begins a word does not begin a number. -/
theorem not_number_of_wordStart {c : Char} (h : isLetter c = true ∨ c = '_') :
    c.isDigit = false ∧ c ≠ '.' := by
  constructor
  · rw [Bool.eq_false_iff]
    intro hDigit
    have hBounds : 48 ≤ c.toNat ∧ c.toNat ≤ 57 := by
      simpa [Char.isDigit, UInt32.le_iff_toNat_le] using hDigit
    have hCodes : ∀ n ∈ List.range' 48 10,
        ¬(isLetter (Char.ofNat n) = true ∨ Char.ofNat n = '_') := by decide +kernel
    refine hCodes c.toNat (List.mem_range'_1.mpr (by omega)) ?_
    simpa using h
  · rintro rfl
    exact absurd h (by decide +kernel)

/-! Operators. -/

/-- An operator is the one whose symbol is written. -/
theorem operatorKind_eq_some_iff (cs : List Char) (kind : Kind) :
    operatorKind cs = some kind ↔
      ∃ op : BinaryOp, kind = .operator op ∧ cs = op.symbol.toList := by
  simp only [operatorKind, Option.map_eq_some_iff, BinaryOp.ofSymbol?_eq_some_iff]
  constructor
  · rintro ⟨op, hSymbol, rfl⟩
    exact ⟨op, rfl, by rw [← hSymbol, String.toList_ofList]⟩
  · rintro ⟨op, rfl, rfl⟩
    exact ⟨op, String.ofList_toList, rfl⟩

/-- A symbol is one mark, or one with an equals sign behind it. -/
theorem symbol_eq_cons (op : BinaryOp) :
    ∃ c tail, op.symbol.toList = c :: tail ∧ c ∈ operatorMarks ∧ (tail = [] ∨ tail = ['=']) := by
  rcases op with (_ | _ | _ | _) | (_ | _ | _ | _ | _ | _ | _) <;>
    exact ⟨_, _, rfl, by decide, by decide⟩

/-- An operator is a mark, and an equals sign may follow. -/
theorem operatorKind_eq_none {c : Char} {tail : List Char}
    (h : c ∉ operatorMarks ∨ tail ≠ [] ∧ tail ≠ ['=']) : operatorKind (c :: tail) = none := by
  rw [Option.eq_none_iff_forall_ne_some]
  intro kind hKind
  obtain ⟨op, -, hSymbol⟩ := (operatorKind_eq_some_iff _ _).mp hKind
  obtain ⟨first, others, hFirst, hMark, hOthers⟩ := symbol_eq_cons op
  obtain ⟨rfl, rfl⟩ := List.cons.inj (hSymbol.trans hFirst)
  rcases h with hNot | ⟨hSome, hEqual⟩
  · exact hNot hMark
  · exact hOthers.elim hSome hEqual

/-! The scanners, one for each sort of lexeme: each stops where its lexeme does. -/

/-- What stands in front of the first closing brace is a name without one. -/
theorem exists_reference {rest : List Char} (h : '}' ∈ rest) :
    ∃ name follow, rest.takeWhile (fun d => decide (d ≠ '}')) = name ∧
      rest = name ++ '}' :: follow ∧ '}' ∉ name := by
  obtain ⟨name, follow, hName, rfl, hRun, hStop⟩ :=
    exists_run (fun d => decide (d ≠ '}')) rest
  have hInside : '}' ∉ name := fun hMem => by simpa using hRun _ hMem
  cases follow with
  | nil => exact absurd (by simpa using h) hInside
  | cons d rest =>
      obtain rfl : d = '}' := by simpa using hStop d rfl
      exact ⟨name, rest, hName, rfl, hInside⟩

/-- A number ends where no digit and no first point follows. -/
theorem numberLength_append {seenPoint : Bool} {tail follow : List Char}
    (hTail : numberLength seenPoint tail = tail.length)
    (hStop : ∀ d ∈ follow.head?, d.isDigit = false ∧ (d = '.' → seenPoint = true ∨ '.' ∈ tail)) :
    numberLength seenPoint (tail ++ follow) = tail.length := by
  induction tail generalizing seenPoint with
  | nil =>
      cases follow with
      | nil => rfl
      | cons d rest =>
          obtain ⟨hDigit, hPoint⟩ := hStop d rfl
          have hSeen : d = '.' → seenPoint = true := fun h => by simpa using hPoint h
          simpa [numberLength, hDigit] using hSeen
  | cons c rest ih =>
      simp only [List.cons_append, numberLength, List.length_cons] at hTail ⊢
      split at hTail
      · rename_i hDigit
        have hPoint : '.' ≠ c := by
          rintro rfl
          exact absurd hDigit (by decide)
        rw [if_pos hDigit, ih (Nat.succ.inj hTail)]
        simpa [hPoint] using hStop
      · rename_i hDigit
        split at hTail
        · rename_i hPoint
          rw [if_neg hDigit, if_pos hPoint, ih (Nat.succ.inj hTail)]
          exact fun d hd => ⟨(hStop d hd).1, fun _ => Or.inl rfl⟩
        · cases hTail

/-- What is taken for a number goes on with digits and at most one point, up to what stops it. -/
theorem exists_numberLength (seenPoint : Bool) (rest : List Char) :
    ∃ tail follow, rest = tail ++ follow ∧ numberLength seenPoint rest = tail.length ∧
      numberLength seenPoint tail = tail.length ∧
      ∀ d ∈ follow.head?, d.isDigit = false ∧ (d = '.' → seenPoint = true ∨ '.' ∈ tail) := by
  induction rest generalizing seenPoint with
  | nil => exact ⟨[], [], rfl, rfl, rfl, by simp⟩
  | cons c rest ih =>
      simp only [numberLength]
      split
      · rename_i hDigit
        obtain ⟨tail, follow, rfl, hLength, hTail, hStop⟩ := ih seenPoint
        refine ⟨c :: tail, follow, rfl, congrArg (· + 1) hLength, ?_, fun d hd => ?_⟩
        · rw [numberLength, if_pos hDigit, hTail, List.length_cons]
        · exact ⟨(hStop d hd).1, fun h => ((hStop d hd).2 h).imp_right (List.mem_cons_of_mem c)⟩
      split
      · rename_i hDigit hPoint
        obtain ⟨tail, follow, rfl, hLength, hTail, hStop⟩ := ih true
        have hc : '.' = c := (of_decide_eq_true (Bool.and_eq_true_iff.mp hPoint).1).symm
        refine ⟨c :: tail, follow, rfl, congrArg (· + 1) hLength, ?_, fun d hd => ?_⟩
        · rw [numberLength, if_neg hDigit, if_pos hPoint, hTail, List.length_cons]
        · exact ⟨(hStop d hd).1, fun _ => Or.inr (hc ▸ List.mem_cons_self)⟩
      · rename_i hDigit hPoint
        refine ⟨[], c :: rest, rfl, rfl, rfl, fun d hd => ?_⟩
        obtain rfl : c = d := by simpa using hd
        exact ⟨by simpa using hDigit, fun h => Or.inl (by simpa [h] using hPoint)⟩

theorem scanString_quote (quote : Char) (rest : List Char) :
    scanString quote (quote :: rest) = ([], 1) := by
  cases rest <;> simp [scanString]

theorem scanString_plain {quote c : Char} (hQuote : c ≠ quote) (hEscape : c ≠ '\\')
    (rest : List Char) : scanString quote (c :: rest) =
      (c :: (scanString quote rest).1, (scanString quote rest).2 + 1) := by
  cases rest <;> simp [scanString, hQuote, hEscape]

theorem scanString_escaped {quote : Char} (hQuote : quote ≠ '\\') (c : Char) (rest : List Char) :
    scanString quote ('\\' :: c :: rest) =
      (unescape c :: (scanString quote rest).1, (scanString quote rest).2 + 2) := by
  simp [scanString, hQuote.symm]

/-- What stands between the quotes is passed over. -/
theorem Quoted.scanString_append {quote : Char} (hQuote : quote ≠ '\\') {body content : List Char}
    (h : Quoted quote body content) (rest : List Char) :
    scanString quote (body ++ rest) =
      (content ++ (scanString quote rest).1, body.length + (scanString quote rest).2) := by
  induction h with
  | nil => simp
  | plain hPlain hEscape _ ih =>
      rw [List.cons_append, scanString_plain hPlain hEscape, ih]
      simp [Nat.add_right_comm]
  | escaped c _ ih =>
      rw [List.cons_append, List.cons_append, scanString_escaped hQuote, ih]
      simp [Nat.add_right_comm]

/-- A string ends with its closing quote or where the text does. -/
theorem exists_quoted (quote : Char) (rest : List Char) :
    ∃ body, Quoted quote body (scanString quote rest).1 ∧
      ((∃ follow, rest = body ++ quote :: follow ∧
          (scanString quote rest).2 = (body ++ [quote]).length) ∨
        ∃ ending, (ending = [] ∨ ending = ['\\']) ∧ rest = body ++ ending ∧
          (scanString quote rest).2 = (body ++ ending).length) := by
  fun_induction scanString quote rest with
  | case1 => exact ⟨[], .nil, Or.inr ⟨[], Or.inl rfl, rfl, rfl⟩⟩
  | case2 rest => exact ⟨[], .nil, Or.inl ⟨rest, rfl, rfl⟩⟩
  | case3 => exact ⟨[], .nil, Or.inr ⟨['\\'], Or.inr rfl, rfl, rfl⟩⟩
  | case4 escaped rest content n hScan hQuote ih =>
      rw [hScan] at ih
      obtain ⟨body, hBody, hEnd⟩ := ih
      refine ⟨'\\' :: escaped :: body, .escaped escaped hBody, ?_⟩
      rcases hEnd with ⟨follow, rfl, hLength⟩ | ⟨ending, hEnding, rfl, hLength⟩
      · exact Or.inl ⟨follow, rfl, congrArg (· + 2) hLength⟩
      · exact Or.inr ⟨ending, hEnding, rfl, congrArg (· + 2) hLength⟩
  | case5 c rest hQuote hEscape content n hScan ih =>
      rw [hScan] at ih
      obtain ⟨body, hBody, hEnd⟩ := ih
      refine ⟨c :: body, .plain hQuote hEscape hBody, ?_⟩
      rcases hEnd with ⟨follow, rfl, hLength⟩ | ⟨ending, hEnding, rfl, hLength⟩
      · exact Or.inl ⟨follow, rfl, congrArg (· + 1) hLength⟩
      · exact Or.inr ⟨ending, hEnding, rfl, congrArg (· + 1) hLength⟩

/-- What stands between the quotes does not close the string. -/
theorem Quoted.lacksQuote_append {quote : Char} (hQuote : quote ≠ '\\') {body content : List Char}
    (h : Quoted quote body content) (rest : List Char) :
    lacksQuote quote (body ++ rest) = lacksQuote quote rest := by
  induction h with
  | nil => rfl
  | @plain c body _ hPlain hEscape _ ih =>
      rw [← ih]
      cases hBody : body ++ rest <;> simp [hBody, lacksQuote, hPlain, hEscape]
  | escaped c _ ih => simp [lacksQuote, hQuote.symm, ih]

end Token

end RowFormula
