import RowFormula.Json.Token
import RowFormula.Proofs.Number.Text
import RowFormula.Proofs.Text.Run

/-! Numbers in JSON text. A number is cut off where a comma or a closing bracket comes, and is read
there as it is read alone. -/
namespace RowFormula.Json

open Number (isNumeral readSign)

/-- The characters that can come behind a value. -/
def closes (c : Char) : Bool := c = ',' || c = ']' || c = '\x7d'

/-- Nothing follows, or what can come behind a value. -/
def Ended (follow : List Char) : Prop := ∀ c ∈ follow.head?, closes c = true

theorem closes_iff (c : Char) : closes c = true ↔ c = ',' ∨ c = ']' ∨ c = '\x7d' := by
  simp [closes, or_assoc]

/-- The minus sign in front of a number, and what follows it. -/
def minusSign : List Char → Bool × List Char
  | '-' :: rest => (true, rest)
  | cs => (false, cs)

/-- A number is read as its sign, whole part, fraction and exponent, one after the other. -/
theorem number?_eq (cs : List Char) :
    number? cs = (wholeDigits? (minusSign cs).2).map fun taken =>
      (numberOf (minusSign cs).1 taken.1 (fractionDigits taken.2).1
        (exponentDigits (fractionDigits taken.2).2).1,
        (exponentDigits (fractionDigits taken.2).2).2) := by
  fun_cases minusSign cs with
  | case1 rest =>
      rw [number?]
      cases wholeDigits? rest <;> rfl
  | case2 cs hSign =>
      rw [number?.eq_2 cs hSign]
      cases wholeDigits? cs <;> rfl

theorem exponentDigits_cons (e : Char) (rest : List Char) :
    exponentDigits (e :: rest) =
      if e = 'e' ∨ e = 'E' then
        let digits := (readSign rest).2.takeWhile Char.isDigit
        let n : Int := Number.digitsValue digits
        if digits = [] then (none, e :: rest)
        else (some (if (readSign rest).1 then -n else n), (readSign rest).2.drop digits.length)
      else (none, e :: rest) := rfl

/-! What the readers of the parts of a number leave of the text. -/

theorem readSign_suffix (cs : List Char) : (readSign cs).2 <:+ cs := by
  fun_cases readSign cs with
  | case1 rest => exact List.suffix_cons '-' rest
  | case2 rest => exact List.suffix_cons '+' rest
  | case3 => exact List.suffix_rfl

/-- The whole part is a run of digits in front. -/
theorem wholeDigits?_split {cs whole rest : List Char} (h : wholeDigits? cs = some (whole, rest)) :
    cs = whole ++ rest ∧ whole ≠ [] ∧ ∀ c ∈ whole, c.isDigit = true := by
  unfold wholeDigits? at h
  split at h
  · cases h
    exact ⟨rfl, List.cons_ne_nil _ _, by simp⟩
  · dsimp only at h
    split at h
    · cases h
    · rename_i hSome
      obtain ⟨rfl, rfl⟩ := Prod.mk.inj (Option.some.inj h)
      exact ⟨(List.prefix_iff_eq_append.mp (List.takeWhile_prefix _)).symm, hSome,
        List.all_eq_true.mp List.all_takeWhile⟩

/-- Where no fraction is found, nothing is taken. -/
theorem fractionDigits_suffix (cs : List Char) :
    (fractionDigits cs).2 <:+ cs ∧ ((fractionDigits cs).1 = [] → (fractionDigits cs).2 = cs) := by
  unfold fractionDigits
  split
  · dsimp only
    split
    · exact ⟨List.suffix_rfl, fun _ => rfl⟩
    · rename_i hSome
      exact ⟨(List.drop_suffix _ _).trans (List.suffix_cons _ _), fun hNone => absurd hNone hSome⟩
  · exact ⟨List.suffix_rfl, fun _ => rfl⟩

/-- Where no exponent is found, nothing is taken. -/
theorem exponentDigits_suffix (cs : List Char) :
    (exponentDigits cs).2 <:+ cs ∧ ((exponentDigits cs).1 = none → (exponentDigits cs).2 = cs) := by
  cases cs with
  | nil => exact ⟨List.suffix_rfl, fun _ => rfl⟩
  | cons e rest =>
      rw [exponentDigits_cons]
      split
      · dsimp only
        split
        · exact ⟨List.suffix_rfl, fun _ => rfl⟩
        · exact ⟨((List.drop_suffix _ _).trans (readSign_suffix rest)).trans (List.suffix_cons _ _),
            fun hNone => by cases hNone⟩
      · exact ⟨List.suffix_rfl, fun _ => rfl⟩

theorem minusSign_suffix (cs : List Char) : (minusSign cs).2 <:+ cs := by
  fun_cases minusSign cs with
  | case1 rest => exact List.suffix_cons '-' rest
  | case2 => exact List.suffix_rfl

/-- What is left behind a number ends the text. -/
theorem number?_suffix {cs rest : List Char} {j : Json} (h : number? cs = some (j, rest)) :
    rest <:+ cs := by
  rw [number?_eq] at h
  obtain ⟨⟨whole, after⟩, hWhole, hRest⟩ := Option.map_eq_some_iff.mp h
  obtain ⟨-, rfl⟩ := Prod.mk.inj hRest
  have hAfter : after <:+ (minusSign cs).2 :=
    (wholeDigits?_split hWhole).1 ▸ List.suffix_append whole after
  exact (exponentDigits_suffix _).1.trans
    ((fractionDigits_suffix _).1.trans (hAfter.trans (minusSign_suffix cs)))

/-- A number begins with a character of numbers. -/
theorem exists_cons_of_number? {cs rest : List Char} {j : Json} (h : number? cs = some (j, rest)) :
    ∃ c tail, cs = c :: tail ∧ isNumeral c = true := by
  rw [number?_eq] at h
  obtain ⟨⟨whole, after⟩, hWhole, -⟩ := Option.map_eq_some_iff.mp h
  obtain ⟨hDigits, hSome, hAll⟩ := wholeDigits?_split hWhole
  fun_cases minusSign cs with
  | case1 rest => exact ⟨'-', rest, rfl, rfl⟩
  | case2 cs hSign =>
      obtain ⟨c, tail, rfl⟩ := List.exists_cons_of_ne_nil hSome
      rw [minusSign.eq_2 cs hSign] at hDigits
      have hDigit := hAll c List.mem_cons_self
      exact ⟨c, tail ++ after, hDigits, by simp [isNumeral, hDigit]⟩

/-- Only digits make an integer. -/
theorem numberOf_eq_integer {negative : Bool} {whole fraction : List Char} {exponent : Option Int}
    {n : Int} (h : numberOf negative whole fraction exponent = .number (.integer n)) :
    fraction = [] ∧ exponent = none := by
  simp only [numberOf] at h
  split at h
  · rename_i hPlain
    exact ⟨hPlain.1, hPlain.2.1⟩
  · split at h <;> cases h

/-- Text with anything else than digits and a sign is not read as an integer. -/
theorem not_integer_of_mem {cs : List Char} {j : Json} (h : number? cs = some (j, [])) {mark : Char}
    (hMark : mark ∈ cs) (hSign : mark ≠ '-') (hDigit : mark.isDigit = false) (n : Int) :
    j ≠ .number (.integer n) := by
  rintro rfl
  rw [number?_eq] at h
  obtain ⟨⟨whole, after⟩, hWhole, hRead⟩ := Option.map_eq_some_iff.mp h
  obtain ⟨hNumber, hRest⟩ := Prod.mk.inj hRead
  obtain ⟨hFraction, hExponent⟩ := numberOf_eq_integer hNumber
  rw [(exponentDigits_suffix _).2 hExponent, (fractionDigits_suffix _).2 hFraction] at hRest
  obtain ⟨hDigits, -, hAll⟩ := wholeDigits?_split hWhole
  have hUnsigned : mark ∈ (minusSign cs).2 := by
    fun_cases minusSign cs with
    | case1 rest => exact (List.mem_cons.mp hMark).resolve_left hSign
    | case2 => exact hMark
  rw [hDigits, show after = [] from hRest, List.append_nil] at hUnsigned
  exact Bool.false_ne_true (hDigit.symm.trans (hAll mark hUnsigned))

/-! What follows a value stays behind. -/

section Follow

variable {follow : List Char} (hEnded : Ended follow)

include hEnded

/-- What follows a value adds no digit to a run of digits. -/
theorem digits_append (cs : List Char) :
    (cs ++ follow).takeWhile Char.isDigit = cs.takeWhile Char.isDigit ∧
      (cs ++ follow).drop (cs.takeWhile Char.isDigit).length =
        cs.drop (cs.takeWhile Char.isDigit).length ++ follow := by
  have hStop : ∀ c ∈ follow.head?, c.isDigit = false := by
    intro c hc
    rcases (closes_iff c).mp (hEnded c hc) with rfl | rfl | rfl <;> rfl
  exact ⟨Text.takeWhile_append_of_stop cs hStop,
    List.drop_append_of_le_length (List.takeWhile_prefix _).length_le⟩

/-- What follows a value does not put another character in front. -/
theorem append_ne_cons {cs : List Char} {c : Char} (hOpen : closes c = false)
    (h : ∀ rest, cs = c :: rest → False) : ∀ rest, cs ++ follow = c :: rest → False := by
  intro rest hCons
  cases cs with
  | nil =>
      rw [List.nil_append] at hCons
      exact Bool.false_ne_true (hOpen.symm.trans (hEnded c (by rw [hCons]; rfl)))
  | cons first cs =>
      obtain ⟨rfl, -⟩ := List.cons.inj hCons
      exact h cs rfl

/-- What follows a value does not change its whole part. -/
theorem wholeDigits?_append {cs whole rest : List Char}
    (h : wholeDigits? cs = some (whole, rest)) :
    wholeDigits? (cs ++ follow) = some (whole, rest ++ follow) := by
  obtain ⟨hDigits, hRest⟩ := digits_append hEnded cs
  fun_cases wholeDigits? cs with
  | case1 rest =>
      cases h
      rfl
  | case2 cs digits hNone hZero =>
      rw [wholeDigits?.eq_2 cs hZero, if_pos hNone] at h
      cases h
  | case3 cs digits hSome hZero =>
      rw [wholeDigits?.eq_2 cs hZero, if_neg hSome] at h
      obtain ⟨rfl, rfl⟩ := Prod.mk.inj (Option.some.inj h)
      rw [wholeDigits?.eq_2 _ (append_ne_cons hEnded (by decide) hZero), hDigits, if_neg hSome,
        hRest]

/-- What follows a value does not change its fraction. -/
theorem fractionDigits_append (cs : List Char) :
    fractionDigits (cs ++ follow) = ((fractionDigits cs).1, (fractionDigits cs).2 ++ follow) := by
  fun_cases fractionDigits cs with
  | case1 rest digits hNone =>
      obtain ⟨hDigits, hRest⟩ := digits_append hEnded rest
      rw [List.cons_append, fractionDigits, hDigits, if_pos hNone]
  | case2 rest digits hSome =>
      obtain ⟨hDigits, hRest⟩ := digits_append hEnded rest
      rw [List.cons_append, fractionDigits, hDigits, if_neg hSome, hRest]
  | case3 cs hPoint => rw [fractionDigits.eq_2 _ (append_ne_cons hEnded (by decide) hPoint)]

theorem readSign_append (cs : List Char) :
    readSign (cs ++ follow) = ((readSign cs).1, (readSign cs).2 ++ follow) := by
  fun_cases readSign cs with
  | case1 rest => rfl
  | case2 rest => rfl
  | case3 cs hMinus hPlus =>
      rw [Number.readSign.eq_3]
      · exact append_ne_cons hEnded (by decide) hMinus
      · exact append_ne_cons hEnded (by decide) hPlus

/-- What follows a value does not change its exponent. -/
theorem exponentDigits_append (cs : List Char) :
    exponentDigits (cs ++ follow) = ((exponentDigits cs).1, (exponentDigits cs).2 ++ follow) := by
  cases cs with
  | nil =>
      cases follow with
      | nil => rfl
      | cons c rest =>
          rcases (closes_iff c).mp (hEnded c rfl) with rfl | rfl | rfl <;> rfl
  | cons e rest =>
      obtain ⟨hDigits, hRest⟩ := digits_append hEnded (readSign rest).2
      rw [List.cons_append, exponentDigits_cons, exponentDigits_cons, readSign_append hEnded]
      dsimp only
      rw [hDigits, hRest]
      split
      · split <;> rfl
      · rfl

/-- What follows a value does not change its sign. -/
theorem minusSign_append (cs : List Char) :
    minusSign (cs ++ follow) = ((minusSign cs).1, (minusSign cs).2 ++ follow) := by
  fun_cases minusSign cs with
  | case1 rest => rfl
  | case2 cs hMinus =>
      rw [minusSign.eq_2]
      exact append_ne_cons hEnded (by decide) hMinus

/-- A number is read alike whatever follows the value. -/
theorem number?_append {cs rest : List Char} {j : Json} (h : number? cs = some (j, rest)) :
    number? (cs ++ follow) = some (j, rest ++ follow) := by
  rw [number?_eq] at h ⊢
  obtain ⟨⟨whole, after⟩, hWhole, hRead⟩ := Option.map_eq_some_iff.mp h
  obtain ⟨rfl, rfl⟩ := Prod.mk.inj hRead
  rw [minusSign_append hEnded, wholeDigits?_append hEnded hWhole, Option.map_some,
    fractionDigits_append hEnded, exponentDigits_append hEnded]

end Follow

end RowFormula.Json
