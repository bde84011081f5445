import RowFormula.Time.Reading
import RowFormula.Proofs.Number.Reading

/-! Text that can be read as an instant. In every layout a dash follows the digits of the year, so
no decimal text is a date. -/
namespace RowFormula.Time

open RowFormula.Number (readDecimal? readSign readSign_of_unsigned readSign_cons_of_ne
  readDecimal?_of_dash readDecimal?_of_isBlank)
open RowFormula.Text (dropBlanks trimChars isBlank)

/-- A dash follows digits, which may have a sign in front. -/
def Dashed (cs : List Char) : Prop :=
  ∃ digits rest, (∀ c ∈ digits, c.isDigit = true) ∧ (readSign cs).2 = digits ++ '-' :: rest

theorem eq_cons_of_expectChar? {c : Char} {cs rest : List Char} (h : expectChar? c cs = some rest) :
    cs = c :: rest := by
  cases cs with
  | nil => cases h
  | cons first others =>
      rw [expectChar?] at h
      split at h
      · rename_i hSame
        cases h
        rw [hSame]
      · cases h

/-- What a run of digits leaves stands behind digits only. -/
theorem exists_of_shortDigits? {width n : Nat} {cs rest : List Char}
    (h : shortDigits? width cs = some (n, rest)) :
    ∃ digits, (∀ c ∈ digits, c.isDigit = true) ∧ cs = digits ++ rest := by
  rw [shortDigits?] at h
  split at h
  · cases h
  · cases h
    refine ⟨(cs.take width).takeWhile Char.isDigit, List.all_eq_true.mp List.all_takeWhile, ?_⟩
    exact (List.prefix_iff_eq_append.mp
      ((List.takeWhile_prefix Char.isDigit).trans (List.take_prefix width cs))).symm

/-- A fixed number of digits is read from so many digits in front. -/
theorem exists_of_fixedDigits? {width n : Nat} {cs rest : List Char}
    (h : fixedDigits? width cs = some (n, rest)) :
    ∃ digits, (∀ c ∈ digits, c.isDigit = true) ∧ digits.length = width ∧ cs = digits ++ rest := by
  rw [fixedDigits?] at h
  split at h
  · rename_i hDigits
    cases h
    exact ⟨cs.take width, List.all_eq_true.mp hDigits.2, hDigits.1,
      (List.take_append_drop width cs).symm⟩
  · cases h

theorem readSign_of_digit {c : Char} (h : c.isDigit = true) (rest : List Char) :
    readSign (c :: rest) = (false, c :: rest) := by
  have hMinus : c ≠ '-' := fun hSame => absurd h (hSame ▸ by decide)
  have hPlus : c ≠ '+' := fun hSame => absurd h (hSame ▸ by decide)
  exact readSign_cons_of_ne hMinus hPlus rest

/-- The standard form begins with four digits and a dash. -/
theorem dashed_of_readStandard? {cs : List Char} {t : Instant} (h : readStandard? cs = some t) :
    Dashed cs := by
  obtain ⟨⟨year, afterYear⟩, hYear, h⟩ := Option.bind_eq_some_iff.mp h
  obtain ⟨rest, hDash, _⟩ := Option.bind_eq_some_iff.mp h
  obtain ⟨digits, hDigits, hLength, rfl⟩ := exists_of_fixedDigits? hYear
  cases eq_cons_of_expectChar? hDash
  obtain ⟨first, others, rfl⟩ := List.exists_cons_of_length_eq_add_one hLength
  refine ⟨first :: others, rest, hDigits, ?_⟩
  rw [List.cons_append, readSign_of_digit (hDigits first List.mem_cons_self)]

theorem exists_of_map_shortDigits? {f : Nat → Int} {width : Nat} {year : Int}
    {cs rest : List Char}
    (h : (shortDigits? width cs).map (fun digits => (f digits.1, digits.2)) = some (year, rest)) :
    ∃ digits, (∀ c ∈ digits, c.isDigit = true) ∧ cs = digits ++ rest := by
  obtain ⟨⟨n, others⟩, hShort, hPair⟩ := Option.map_eq_some_iff.mp h
  cases hPair
  exact exists_of_shortDigits? hShort

/-- The year of a plain layout may have a sign. -/
theorem exists_of_layoutYear? {cs rest : List Char} {year : Int}
    (h : layoutYear? cs = some (year, rest)) :
    ∃ digits, (∀ c ∈ digits, c.isDigit = true) ∧ (readSign (dropBlanks cs)).2 = digits ++ rest := by
  unfold layoutYear? at h
  split at h
  case h_1 unsigned hText => exact hText ▸ exists_of_map_shortDigits? (f := fun n => -n) h
  case h_2 unsigned hText => exact hText ▸ exists_of_map_shortDigits? h
  case h_3 hMinus hPlus =>
    exact (readSign_of_unsigned hMinus hPlus).symm ▸ exists_of_map_shortDigits? h

/-- A date that is read has a dash behind its year. -/
theorem dashed_of_layoutDate? {cs rest : List Char} {date : Civil}
    (h : layoutDate? cs = some (date, rest)) : Dashed (dropBlanks cs) := by
  obtain ⟨⟨year, afterYear⟩, hYear, h⟩ := Option.bind_eq_some_iff.mp h
  obtain ⟨afterDash, hDash, _⟩ := Option.bind_eq_some_iff.mp h
  obtain ⟨digits, hDigits, hSplit⟩ := exists_of_layoutYear? hYear
  cases eq_cons_of_expectChar? hDash
  exact ⟨digits, afterDash, hDigits, hSplit⟩

/-- What has a dash behind its first digits is no number. -/
theorem readDecimal?_of_dashed {cs : List Char} (dashed : Dashed (dropBlanks cs)) :
    readDecimal? cs = none := by
  obtain ⟨digits, rest, hDigits, hSign⟩ := dashed
  cases cs with
  | nil => rfl
  | cons c cs =>
      by_cases hBlank : isBlank c = true
      · exact readDecimal?_of_isBlank hBlank cs
      · rw [dropBlanks, List.dropWhile_cons_of_neg hBlank] at hSign
        exact readDecimal?_of_dash hDigits hSign

/-- Decimal text is no date, in any layout. -/
theorem readChars?_of_readDecimal? {cs : List Char} {x : Float}
    (h : readDecimal? (trimChars cs) = some x) : readChars? cs = none := by
  have hStandard : readStandard? (trimChars cs) = none := by
    refine Option.eq_none_iff_forall_ne_some.mpr fun t hRead => ?_
    obtain ⟨digits, rest, hDigits, hSign⟩ := dashed_of_readStandard? hRead
    rw [readDecimal?_of_dash hDigits hSign] at h
    cases h
  have hDate : layoutDate? (trimChars cs) = none := by
    refine Option.eq_none_iff_forall_ne_some.mpr fun ⟨date, rest⟩ hRead => ?_
    rw [readDecimal?_of_dashed (dashed_of_layoutDate? hRead)] at h
    cases h
  simp [readChars?, hStandard, readLayout?, readDate?, hDate]

end RowFormula.Time
