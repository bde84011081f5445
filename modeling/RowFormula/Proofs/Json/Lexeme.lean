import RowFormula.Proofs.Json.Number

/-! The lexemes of written JSON. Each is cut off where it ends and is read as what it was written
from. So text that is put together from written parts has the tokens of the parts. -/
namespace RowFormula.Json

open Number (isNumeral)

/-! Strings. -/

/-- A plain character of a string stands for itself. -/
theorem pieces?_plain {c : Char} (hQuote : c ≠ '"') (hEscape : c ≠ '\\') (hControl : 0x20 ≤ c.toNat)
    (rest : List Char) :
    pieces? (c :: rest) = (pieces? rest).map fun read => (.char c :: read.1, read.2) := by
  rw [pieces?.eq_5 c rest hQuote (fun _ _ _ _ _ h => absurd h hEscape)
    (fun _ _ h => absurd h hEscape), if_neg (not_or.mpr ⟨hEscape, Nat.not_lt.mpr hControl⟩)]
  cases pieces? rest <;> rfl

/-- A letter behind a backslash stands for what it escapes. -/
theorem pieces?_letter {letter c : Char} (hLetter : letter ≠ 'u') (h : escaped? letter = some c)
    (rest : List Char) :
    pieces? ('\\' :: letter :: rest) =
      (pieces? rest).map fun read => (.char c :: read.1, read.2) := by
  rw [pieces?.eq_4 letter rest (fun _ _ _ _ _ hu => absurd hu hLetter), h]
  cases pieces? rest <;> rfl

/-- Four hexadecimal digits stand for a code unit. -/
theorem pieces?_bits {a b c d : Char} {n : Nat} (h : hexValue? a b c d = some n)
    (rest : List Char) :
    pieces? ('\\' :: 'u' :: a :: b :: c :: d :: rest) =
      (pieces? rest).map fun read => (.bits n :: read.1, read.2) := by
  rw [pieces?, h]
  cases pieces? rest <;> rfl

/-- What four hexadecimal digits stand for. -/
def fourDigits? : List Char → Option Nat
  | [a, b, c, d] => hexValue? a b c d
  | _ => none

/-- A control character is written with four digits that stand for it. -/
theorem exists_controlDigits {n : Nat} (h : n < 0x20) :
    ∃ a b c d, controlDigits n = [a, b, c, d] ∧ hexValue? a b c d = some n := by
  have hAll : ∀ n < 0x20, fourDigits? (controlDigits n) = some n := by decide
  have hDigits := hAll n h
  unfold fourDigits? at hDigits
  split at hDigits
  · rename_i a b c d hFour
    exact ⟨a, b, c, d, hFour, hDigits⟩
  · cases hDigits

/-- A character is escaped by a letter, by its digits, or not at all. -/
theorem escapeChar_cases (c : Char) :
    (∃ letter, escapeChar c = ['\\', letter] ∧ letter ≠ 'u' ∧ 0x20 ≤ letter.toNat ∧
      escaped? letter = some c) ∨
    c.toNat < 0x20 ∧ escapeChar c = '\\' :: 'u' :: controlDigits c.toNat ∨
    c ≠ '"' ∧ c ≠ '\\' ∧ 0x20 ≤ c.toNat ∧ escapeChar c = [c] := by
  unfold escapeChar
  split
  · rename_i hMark
    refine Or.inl ⟨c, rfl, ?_⟩
    rcases hMark with rfl | rfl <;> decide
  iterate 5
    split
    · rename_i hLetter
      exact Or.inl ⟨_, rfl, by decide, by decide, hLetter ▸ rfl⟩
  split
  · rename_i hControl
    exact Or.inr (Or.inl ⟨hControl, rfl⟩)
  · rename_i hMark _ _ _ _ _ hControl
    obtain ⟨hQuote, hEscape⟩ := not_or.mp hMark
    exact Or.inr (Or.inr ⟨hQuote, hEscape, Nat.not_lt.mp hControl, rfl⟩)

theorem join?_bits {n : Nat} (h : n < 0xD800) (more : List Piece) :
    join? (.bits n :: more) = (join? more).map (Char.ofNat n :: ·) := by
  rcases more with _ | ⟨_ | m, rest⟩ <;> simp [join?, h]

/-- A character is written so that it is read as one piece, which stands for it. -/
theorem exists_piece (c : Char) :
    ∃ piece, (∀ rest, pieces? (escapeChar c ++ rest) =
        (pieces? rest).map fun read => (piece :: read.1, read.2)) ∧
      ∀ more, join? (piece :: more) = (join? more).map (c :: ·) := by
  rcases escapeChar_cases c with
    ⟨letter, hEscape, hLetter, -, hStands⟩ | ⟨hControl, hEscape⟩ | ⟨hQuote, hMark, hPlain, hEscape⟩
  · rw [hEscape]
    exact ⟨.char c, pieces?_letter hLetter hStands, fun more => rfl⟩
  · obtain ⟨a, b, d, e, hDigits, hValue⟩ := exists_controlDigits hControl
    rw [hEscape, hDigits]
    refine ⟨.bits c.toNat, pieces?_bits hValue, fun more => ?_⟩
    rw [join?_bits (by omega), Char.ofNat_toNat]
  · rw [hEscape]
    exact ⟨.char c, pieces?_plain hQuote hMark hPlain, fun more => rfl⟩

/-- A string is read as it was before it was written, whatever follows its closing quote. -/
theorem exists_pieces (cs follow : List Char) :
    ∃ pieces, pieces? (cs.flatMap escapeChar ++ '"' :: follow) = some (pieces, follow) ∧
      join? pieces = some cs := by
  induction cs with
  | nil => exact ⟨[], rfl, rfl⟩
  | cons c cs ih =>
      obtain ⟨pieces, hPieces, hJoin⟩ := ih
      obtain ⟨piece, hPiece, hStands⟩ := exists_piece c
      refine ⟨piece :: pieces, ?_, ?_⟩
      · rw [List.flatMap_cons, List.append_assoc, hPiece, hPieces]
        rfl
      · rw [hStands, hJoin]
        rfl

/-- A string that is written is read as one token. -/
theorem token?_stringChars (s : String) (follow : List Char) :
    token? (stringChars s ++ follow) = some (.string (some s), follow) := by
  obtain ⟨pieces, hPieces, hJoin⟩ := exists_pieces s.toList follow
  have hText : stringChars s ++ follow = '"' :: (s.toList.flatMap escapeChar ++ '"' :: follow) := by
    simp [stringChars]
  rw [hText, token?, hPieces, Option.map_some]
  dsimp only
  rw [hJoin, Option.map_some, String.ofList_toList]

/-! Numbers. -/

theorem isSpace_of_isNumeral {c : Char} (hc : isNumeral c = true) : isSpace c = false := by
  simp only [isSpace, Bool.or_eq_false_iff, decide_eq_false_iff_not]
  refine ⟨⟨⟨?_, ?_⟩, ?_⟩, ?_⟩ <;> rintro rfl <;> exact absurd hc (by decide)

/-- A token that begins like a number is a number. -/
theorem token?_of_isNumeral {c : Char} (hc : isNumeral c = true) (cs : List Char) :
    token? (c :: cs) = (number? (c :: cs)).map fun read => (.scalar read.1, read.2) := by
  generalize hText : c :: cs = text
  fun_cases token? text with
  | case1 => cases hText
  | case12 => rfl
  | _ =>
      obtain ⟨rfl, -⟩ := List.cons.inj hText
      exact absurd hc (by decide)

/-! Texts and their tokens. -/

theorem tokens?_cons {c : Char} (hSpace : isSpace c = false) (fuel : Nat) (cs : List Char) :
    tokens? (fuel + 1) (c :: cs) =
      (token? (c :: cs)).bind fun read => (tokens? fuel read.2).map (read.1 :: ·) := by
  have hStart : (c :: cs).dropWhile isSpace = c :: cs := by simp [hSpace]
  rw [tokens?.eq_3 _ _ (by simp [hStart]), hStart]
  rcases token? (c :: cs) with _ | ⟨token, rest⟩
  · rfl
  · simp only [Option.bind_eq_bind, Option.bind_some]
    cases tokens? fuel rest <;> rfl

/-- Some text is cut into some tokens in front of other text. -/
def Lexes (cs : List Char) (tokens : List Token) (follow : List Char) : Prop :=
  tokens.length ≤ cs.length ∧
    ∀ fuel, tokens? (tokens.length + fuel) (cs ++ follow) = (tokens? fuel follow).map (tokens ++ ·)

namespace Lexes

variable {cs more follow : List Char} {tokens others : List Token}

theorem nil (follow : List Char) : Lexes [] [] follow :=
  ⟨Nat.le_refl 0, fun fuel => by simp⟩

/-- The tokens of two texts come one after the other. -/
theorem append (h : Lexes cs tokens (more ++ follow)) (h' : Lexes more others follow) :
    Lexes (cs ++ more) (tokens ++ others) follow := by
  refine ⟨by simpa using Nat.add_le_add h.1 h'.1, fun fuel => ?_⟩
  rw [List.length_append, Nat.add_assoc, List.append_assoc, h.2, h'.2, Option.map_map]
  congr 1
  funext rest
  exact (List.append_assoc tokens others rest).symm

/-- A token that is cut off in front. -/
theorem one {c : Char} {token : Token} (hSpace : isSpace c = false)
    (h : token? (c :: cs ++ follow) = some (token, follow)) : Lexes (c :: cs) [token] follow := by
  refine ⟨by simp, fun fuel => ?_⟩
  rw [List.length_singleton, Nat.add_comm, List.cons_append, tokens?_cons hSpace,
    ← List.cons_append, h, Option.bind_some]
  rfl

/-- A written string is one token, whatever follows. -/
theorem string (s : String) (follow : List Char) :
    Lexes (stringChars s) [.string (some s)] follow :=
  one rfl (token?_stringChars s follow)

/-- Text that is read as a number is one token where a value can end. -/
theorem number {j : Json} (h : number? cs = some (j, [])) (hEnded : Ended follow) :
    Lexes cs [.scalar j] follow := by
  obtain ⟨c, tail, rfl, hHead⟩ := exists_cons_of_number? h
  have hNumber := number?_append hEnded h
  refine one (isSpace_of_isNumeral hHead) ?_
  rw [List.cons_append] at hNumber ⊢
  rw [token?_of_isNumeral hHead, hNumber]
  rfl

/-- The whole text has these tokens and no more. -/
theorem tokens?_length (h : Lexes cs tokens []) : tokens? cs.length cs = some tokens := by
  obtain ⟨fuel, hFuel⟩ := Nat.exists_eq_add_of_le h.1
  rw [hFuel, ← List.append_nil cs, h.2 fuel]
  rw [tokens?.eq_1 [] fuel rfl, Option.map_some, List.append_nil]

/-- Texts with commas between them have the tokens of the texts with commas between them. -/
theorem separated {α : Type} {text : α → List Char} {tokens : α → List Token} {parts : List α}
    (h : ∀ part ∈ parts, ∀ follow, Ended follow → Lexes (text part) (tokens part) follow)
    (hEnded : Ended follow) :
    Lexes (Json.separated (parts.map text)) ([Token.comma].intercalate (parts.map tokens))
      follow := by
  induction parts with
  | nil => exact nil follow
  | cons part parts ih =>
      cases parts with
      | nil => simpa [Json.separated] using h part (by simp) follow hEnded
      | cons next parts =>
          have hNext := ih (fun part hPart => h part (List.mem_cons_of_mem _ hPart))
          have hComma : Lexes [','] [Token.comma]
              (Json.separated ((next :: parts).map text) ++ follow) := one rfl rfl
          have hPart := h part (by simp)
            (([','] ++ Json.separated ((next :: parts).map text)) ++ follow)
            (by simp [Ended, closes])
          simpa [Json.separated, List.intercalate_cons_cons] using
            hPart.append (hComma.append hNext)

/-- So have texts with commas between them in a pair of brackets. -/
theorem bracketed {α : Type} {text : α → List Char} {tokens : α → List Token} {parts : List α}
    {first last : Char} {opening closing : Token}
    (hOpen : isSpace first = false ∧ ∀ rest, token? (first :: rest) = some (opening, rest))
    (hClose : isSpace last = false ∧ ∀ rest, token? (last :: rest) = some (closing, rest))
    (hLast : closes last = true)
    (h : ∀ part ∈ parts, ∀ follow, Ended follow → Lexes (text part) (tokens part) follow) :
    Lexes (first :: Json.separated (parts.map text) ++ [last])
      (opening :: [Token.comma].intercalate (parts.map tokens) ++ [closing]) follow := by
  have hParts := separated h (show Ended (last :: follow) by simp [Ended, hLast])
  have hOpening : Lexes [first] [opening] ((Json.separated (parts.map text) ++ [last]) ++ follow) :=
    one hOpen.1 (hOpen.2 _)
  have hClosing : Lexes [last] [closing] follow := one hClose.1 (hClose.2 follow)
  exact hOpening.append (hParts.append hClosing)

end Lexes

end RowFormula.Json
