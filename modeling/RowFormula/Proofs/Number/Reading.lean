import RowFormula.Number.Reading
import RowFormula.Text.Blank
import RowFormula.Proofs.Number.Order
import RowFormula.Proofs.Text.Run

/-! Decimal text. It stands for a number that is not NaN, begins with no blank and has no dash
behind its first digits. -/
namespace RowFormula.Number

open RowFormula.Text (dropWhile_run isBlank takeWhile_run)

/-- Decimal text is read as its sign, its mantissa and its exponent, one after the other. -/
theorem readDecimal?_eq (cs : List Char) :
    readDecimal? cs =
      (readMantissa? (readSign cs).2).bind fun mantissa =>
        (readExponent? mantissa.2.2).bind fun exponent =>
          some (ofDecimal (readSign cs).1 (digitsValue (mantissa.1 ++ mantissa.2.1))
            (exponent - mantissa.2.1.length)) := rfl

/-- No text stands for NaN. -/
theorem isNaN_of_readDecimal? {cs : List Char} {x : Float} (h : readDecimal? cs = some x) :
    isNaN x = false := by
  rw [readDecimal?_eq] at h
  obtain ⟨mantissa, _, h⟩ := Option.bind_eq_some_iff.mp h
  obtain ⟨exponent, _, h⟩ := Option.bind_eq_some_iff.mp h
  cases h
  exact isNaN_ofDecimal _ _ _

theorem readSign_cons_of_ne {c : Char} (hMinus : c ≠ '-') (hPlus : c ≠ '+') (rest : List Char) :
    readSign (c :: rest) = (false, c :: rest) := by
  simp [readSign, hMinus, hPlus]

theorem readSign_of_unsigned {cs : List Char} (hMinus : ∀ rest, cs ≠ '-' :: rest)
    (hPlus : ∀ rest, cs ≠ '+' :: rest) : readSign cs = (false, cs) := by
  cases cs with
  | nil => rfl
  | cons c rest =>
      exact readSign_cons_of_ne (fun hSame => hMinus rest (hSame ▸ rfl))
        (fun hSame => hPlus rest (hSame ▸ rfl)) rest

/-- A mantissa begins with a digit or the point. -/
theorem readMantissa?_of_head {c : Char} (hDigit : c.isDigit = false) (hPoint : c ≠ '.')
    (rest : List Char) : readMantissa? (c :: rest) = none := by
  simp [readMantissa?, spanDigits, hDigit, hPoint]

theorem not_isDigit_of_isBlank {c : Char} (h : isBlank c = true) : c.isDigit = false := by
  refine Bool.eq_false_iff.mpr fun hDigit => ?_
  have hRange : 48 ≤ c.toNat ∧ c.toNat ≤ 57 := by
    simpa [Char.isDigit, UInt32.le_iff_toNat_le] using hDigit
  simp only [isBlank, Text.inRanges, List.any_cons, List.any_nil, Bool.or_false, Bool.or_eq_true,
    Bool.and_eq_true, decide_eq_true_eq] at h
  omega

/-- Decimal text does not begin with a blank. -/
theorem readDecimal?_of_isBlank {c : Char} (h : isBlank c = true) (rest : List Char) :
    readDecimal? (c :: rest) = none := by
  have hMinus : c ≠ '-' := fun hSame => absurd h (hSame ▸ by decide)
  have hPlus : c ≠ '+' := fun hSame => absurd h (hSame ▸ by decide)
  have hPoint : c ≠ '.' := fun hSame => absurd h (hSame ▸ by decide)
  rw [readDecimal?_eq, readSign_cons_of_ne hMinus hPlus,
    readMantissa?_of_head (not_isDigit_of_isBlank h) hPoint, Option.bind_none]

/-- The digits in front are cut off where something else stops them. -/
theorem spanDigits_append {digits rest : List Char} (hDigits : ∀ c ∈ digits, c.isDigit = true)
    (hRest : ∀ c ∈ rest.head?, c.isDigit = false) :
    spanDigits (digits ++ rest) = (digits, rest) := by
  rw [spanDigits, takeWhile_run hDigits hRest, dropWhile_run hDigits hRest]

/-- Behind the digits only a point or an exponent can follow. -/
theorem readDecimal?_of_dash {cs digits rest : List Char}
    (hDigits : ∀ c ∈ digits, c.isDigit = true) (h : (readSign cs).2 = digits ++ '-' :: rest) :
    readDecimal? cs = none := by
  have hSpan : spanDigits (digits ++ '-' :: rest) = (digits, '-' :: rest) :=
    spanDigits_append hDigits (by simp)
  have hMantissa : readMantissa? (digits ++ '-' :: rest) =
      if digits = [] then none else some (digits, [], '-' :: rest) := by
    simp [readMantissa?, hSpan]
  rw [readDecimal?_eq, h, hMantissa]
  split
  · rfl
  · simp [readExponent?]

end RowFormula.Number
