import RowFormula.Proofs.Number.Shortest
import RowFormula.Proofs.Number.Text
import RowFormula.Proofs.Number.ZeroSign
import RowFormula.Proofs.Time.Reading

/-! Numbers read back from their text. A decimal that is written without exponent is read as the
decimal, and the decimal that a finite number is written as rounds to the number. -/
namespace RowFormula.Number

open RowFormula.Time (readSign_of_digit)

/-! Digits. -/

theorem digitsValue_eq (cs : List Char) : digitsValue cs = Nat.ofDigitChars 10 cs 0 := rfl

/-- Digits are read as the number that they are written for. -/
theorem digitsValue_digitChars (n : ℕ) : digitsValue (digitChars n) = n :=
  Nat.ofDigitChars_ten_toDigits

/-- Zeros at the end multiply by powers of ten. -/
theorem digitsValue_append_zeros (cs : List Char) (k : ℕ) :
    digitsValue (cs ++ List.replicate k '0') = 10 ^ k * digitsValue cs := by
  rw [digitsValue_eq, Nat.ofDigitChars_append, Nat.ofDigitChars_replicate_zero, digitsValue_eq]

/-- Zeros in front change nothing. -/
theorem digitsValue_zeros_append (k : ℕ) (cs : List Char) :
    digitsValue (List.replicate k '0' ++ cs) = digitsValue cs := by
  rw [digitsValue_eq, Nat.ofDigitChars_append, Nat.ofDigitChars_replicate_zero, Nat.mul_zero,
    digitsValue_eq]

theorem isDigit_of_mem_digitChars {n : ℕ} {c : Char} (h : c ∈ digitChars n) : c.isDigit = true :=
  Nat.isDigit_of_mem_toDigits (by decide) (by decide) h

theorem isDigit_of_mem_zeros {k : ℕ} {c : Char} (h : c ∈ List.replicate k '0') :
    c.isDigit = true := by
  rw [List.eq_of_mem_replicate h]
  rfl

/-! Decimals. -/

/-- A written sign is read back, and none is read where none is written. -/
theorem readSign_signed {cs : List Char} (hMantissa : ∀ c ∈ cs.head?, c.isDigit = true ∨ c = '.')
    (hSome : cs ≠ []) (negative : Bool) : readSign (signChars negative ++ cs) = (negative, cs) := by
  cases negative with
  | true => rfl
  | false =>
      obtain ⟨c, rest, rfl⟩ := List.exists_cons_of_ne_nil hSome
      rcases hMantissa c rfl with hDigit | rfl
      · exact readSign_of_digit hDigit rest
      · rfl

/-- Digits alone are a whole number. -/
theorem readDecimal?_whole {cs : List Char} (hDigits : ∀ c ∈ cs, c.isDigit = true)
    (hSome : cs ≠ []) (negative : Bool) :
    readDecimal? (signChars negative ++ cs) = some (ofDecimal negative (digitsValue cs) 0) := by
  have hHead : ∀ c ∈ cs.head?, c.isDigit = true ∨ c = '.' :=
    fun c hc => Or.inl (hDigits c (List.mem_of_head? hc))
  have hSign := readSign_signed hHead hSome negative
  have hSpan : spanDigits (cs ++ []) = (cs, []) := spanDigits_append hDigits (by simp)
  rw [List.append_nil] at hSpan
  have hMantissa : readMantissa? cs = some (cs, [], []) := by
    simp [readMantissa?, hSpan, hSome]
  rw [readDecimal?_eq, hSign, hMantissa]
  simp [readExponent?]

/-- Digits around a point, at least one of them. -/
theorem readDecimal?_point {whole fraction : List Char} (hWhole : ∀ c ∈ whole, c.isDigit = true)
    (hFraction : ∀ c ∈ fraction, c.isDigit = true) (hSome : whole ≠ [] ∨ fraction ≠ [])
    (negative : Bool) :
    readDecimal? (signChars negative ++ (whole ++ '.' :: fraction)) =
      some (ofDecimal negative (digitsValue (whole ++ fraction)) (-fraction.length)) := by
  have hHead : ∀ c ∈ (whole ++ '.' :: fraction).head?, c.isDigit = true ∨ c = '.' := by
    cases whole with
    | nil => simp
    | cons first rest => simpa using Or.inl (hWhole first List.mem_cons_self)
  have hSign := readSign_signed hHead (by simp) negative
  have hSpan : spanDigits (whole ++ '.' :: fraction) = (whole, '.' :: fraction) :=
    spanDigits_append hWhole (by simp)
  have hSpan' : spanDigits (fraction ++ []) = (fraction, []) :=
    spanDigits_append hFraction (by simp)
  rw [List.append_nil] at hSpan'
  have hMantissa : readMantissa? (whole ++ '.' :: fraction) = some (whole, fraction, []) := by
    simp [readMantissa?, hSpan, hSpan', imp_iff_not_or, hSome]
  rw [readDecimal?_eq, hSign, hMantissa]
  simp [readExponent?]

/-- A decimal that is written without exponent is read as a decimal of the same value. -/
theorem readDecimal?_positionalChars (negative : Bool) (d : Decimal) :
    ∃ digits power, readDecimal? (signChars negative ++ positionalChars [] d) =
      some (ofDecimal negative digits power) ∧ (digits * 10 ^ power : ℚ) = d.value := by
  unfold positionalChars
  dsimp only
  split
  · rename_i hWhole
    have hDigits : ∀ c ∈ digitChars d.digits ++ List.replicate d.exponent.toNat '0',
        c.isDigit = true := by
      intro c hc
      exact (List.mem_append.mp hc).elim isDigit_of_mem_digitChars isDigit_of_mem_zeros
    have hSome := List.append_ne_nil_of_left_ne_nil (digitChars_ne_nil d.digits)
      (List.replicate d.exponent.toNat '0')
    refine ⟨_, 0, by rw [List.append_nil, readDecimal?_whole hDigits hSome], ?_⟩
    have hPower : (10 : ℚ) ^ d.exponent = 10 ^ d.exponent.toNat := by
      rw [← zpow_natCast, Int.toNat_of_nonneg hWhole]
    rw [digitsValue_append_zeros, digitsValue_digitChars, Decimal.value, hPower]
    push_cast
    ring
  · rename_i hFraction
    generalize hPlaces : (-d.exponent).toNat = places
    generalize hShifted : List.replicate (places + 1 - (digitChars d.digits).length) '0' ++
      digitChars d.digits = shifted
    have hDigits : ∀ c ∈ shifted, c.isDigit = true := by
      intro c hc
      rw [← hShifted] at hc
      exact (List.mem_append.mp hc).elim isDigit_of_mem_zeros isDigit_of_mem_digitChars
    have hLength : places + 1 ≤ shifted.length := by
      rw [← hShifted, List.length_append, List.length_replicate]
      omega
    have hSome : shifted.take (shifted.length - places) ≠ [] := by
      apply List.ne_nil_of_length_pos
      rw [List.length_take]
      omega
    have hValue : digitsValue shifted = d.digits := by
      rw [← hShifted, digitsValue_zeros_append, digitsValue_digitChars]
    refine ⟨_, _, readDecimal?_point (fun c hc => hDigits c (List.mem_of_mem_take hc))
      (fun c hc => hDigits c (List.mem_of_mem_drop hc)) (Or.inl hSome) negative, ?_⟩
    rw [List.take_append_drop, hValue, List.length_drop, Decimal.value]
    congr 2
    omega

/-! Numbers. -/

/-- An integer is written as a sign and digits. -/
theorem intText_chars (n : ℤ) :
    (intText n).toList = signChars (decide (n < 0)) ++ digitChars n.natAbs := by
  have hPadded : padded 0 n.natAbs = digitChars n.natAbs := by simp [padded]
  rw [intText, String.toList_ofList, paddedInt, Nat.zero_sub, hPadded]
  by_cases hNegative : n < 0
  · simp [hNegative, signChars]
  · simp [hNegative, signChars]

/-- The sign of a zero is all that its text can lose. -/
theorem isZero_ofDecimal (negative : Bool) (power : ℤ) :
    isZero (ofDecimal negative 0 power) = true := by
  have hZero : isZero (nearest negative 0 1) = true := by cases negative <;> decide +kernel
  rw [ofDecimal, if_pos rfl, hZero]

theorem exists_exact_of_isFinite {x : Float} (h : isFinite x = true) :
    ∃ negative mantissa exponent, exact x = .finite negative mantissa exponent := by
  unfold isFinite at h
  split at h
  · rename_i negative mantissa exponent hExact
    exact ⟨negative, mantissa, exponent, hExact⟩
  · cases h

theorem decide_wholePart_neg {negative : Bool} {mantissa : ℕ} {exponent : ℤ}
    (hSome : 0 < (wholePart negative mantissa exponent).natAbs) :
    decide (wholePart negative mantissa exponent < 0) = negative := by
  cases negative with
  | false => exact decide_eq_false (Int.not_lt.mpr (Int.natCast_nonneg _))
  | true =>
      have hNonpos : wholePart true mantissa exponent ≤ 0 :=
        Int.neg_nonpos_of_nonneg (Int.natCast_nonneg _)
      exact decide_eq_true (by omega)

section Finite

variable {x : Float} {negative : Bool} {mantissa : ℕ} {exponent : ℤ}
  (hExact : exact x = .finite negative mantissa exponent)

include hExact

theorem isZero_of_exact (hZero : mantissa = 0) : isZero x = true := by
  rw [isZero, hExact, hZero]
  rfl

/-- What is stored of a finite number is read as the number. -/
theorem readDecimal?_plain : ∃ y, readDecimal? (plain.write x).toList = some y ∧ Same y x := by
  rw [plain_write_of_finite hExact]
  split
  · rename_i hZero
    obtain ⟨digits, power, hRead, hValue⟩ := readDecimal?_positionalChars negative ⟨0, 0⟩
    have hPower : (10 : ℚ) ^ power ≠ 0 := by positivity
    obtain rfl : digits = 0 := by simpa [Decimal.value, hPower] using hValue
    exact ⟨_, hRead, Or.inr ⟨isZero_ofDecimal _ _, isZero_of_exact hExact hZero⟩⟩
  · rename_i hSome
    have hPos := Nat.pos_of_ne_zero hSome
    have hRounds : RoundsTo (shortest .up mantissa exponent).value mantissa exponent :=
      roundsTo_shortest hPos (canonical_of_exact hExact).1.short .up
    obtain ⟨digits, power, hRead, hValue⟩ :=
      readDecimal?_positionalChars negative (shortest .up mantissa exponent)
    rw [← hValue] at hRounds
    exact ⟨_, hRead, Or.inl (ofDecimal_eq hExact hPos hRounds)⟩

/-- The whole part of a whole number is the number. -/
theorem natAbs_wholePart (hWhole : isWhole x = true) :
    ((wholePart negative mantissa exponent).natAbs : ℚ) = mantissa * 2 ^ exponent := by
  have hDivides : twoTo (-exponent).toNat ∣ mantissa * twoTo exponent.toNat := by
    rw [isWhole, hExact] at hWhole
    rcases Bool.or_eq_true_iff.mp hWhole with hLarge | hRest
    · have hNone : (-exponent).toNat = 0 := by
        have hNonneg := of_decide_eq_true hLarge
        omega
      rw [hNone]
      exact one_dvd _
    · exact (Nat.dvd_of_mod_eq_zero (of_decide_eq_true hRest)).mul_right _
  have hUnit : (twoTo (-exponent).toNat : ℚ) ≠ 0 := Nat.cast_ne_zero.mpr (twoTo_pos _).ne'
  have hMagnitude : (wholePart negative mantissa exponent).natAbs =
      mantissa * twoTo exponent.toNat / twoTo (-exponent).toNat := by
    cases negative
    · exact Int.natAbs_natCast _
    · exact (Int.natAbs_neg _).trans (Int.natAbs_natCast _)
  rw [hMagnitude, Nat.cast_div hDivides hUnit, Nat.cast_mul, two_zpow, mul_div_assoc]

/-- What is written as an integer is read as the number, but for the sign of zero. -/
theorem readDecimal?_intText (hWhole : isWhole x = true) :
    ∃ y, readDecimal? (intText (wholePart negative mantissa exponent)).toList = some y ∧
      Same y x := by
  have hValue := natAbs_wholePart hExact hWhole
  rw [intText_chars, readDecimal?_whole (fun c hc => isDigit_of_mem_digitChars hc)
    (digitChars_ne_nil _), digitsValue_digitChars]
  refine ⟨_, rfl, ?_⟩
  by_cases hZero : mantissa = 0
  · have hNone : ((wholePart negative mantissa exponent).natAbs : ℚ) = 0 := by
      rw [hValue, hZero, Nat.cast_zero, zero_mul]
    rw [Nat.cast_eq_zero.mp hNone]
    exact Or.inr ⟨isZero_ofDecimal _ _, isZero_of_exact hExact hZero⟩
  · have hPos := Nat.pos_of_ne_zero hZero
    have hSome : 0 < (wholePart negative mantissa exponent).natAbs := by
      have hMantissa : (0 : ℚ) < mantissa := Nat.cast_pos.mpr hPos
      have hProduct : (0 : ℚ) < mantissa * 2 ^ exponent := by positivity
      rw [← hValue] at hProduct
      exact Nat.cast_pos.mp hProduct
    rw [decide_wholePart_neg hSome]
    refine Or.inl (ofDecimal_eq hExact hPos ?_)
    rw [hValue, zpow_zero, mul_one]
    exact .self mantissa exponent

end Finite

/-- The text of a finite number is read as the number, but for the sign of zero. -/
theorem readDecimal?_text {x : Float} (hFinite : isFinite x = true) :
    ∃ y, readDecimal? (text x).toList = some y ∧ Same y x := by
  obtain ⟨negative, mantissa, exponent, hExact⟩ := exists_exact_of_isFinite hFinite
  unfold text
  rw [hExact]
  dsimp only
  split
  · rename_i hWhole
    exact readDecimal?_intText hExact (Bool.and_eq_true_iff.mp hWhole).1
  · exact readDecimal?_plain hExact

/-! No blanks. -/

theorem Numeral.signChars (negative : Bool) : Numeral (Number.signChars negative) := by
  cases negative <;> decide

/-- The text of a finite number is numeral. -/
theorem numeral_text {x : Float} (hFinite : isFinite x = true) : Numeral (text x).toList := by
  obtain ⟨negative, mantissa, exponent, hExact⟩ := exists_exact_of_isFinite hFinite
  unfold text
  rw [hExact]
  dsimp only
  split
  · rw [intText, String.toList_ofList]
    exact Numeral.paddedInt _ _
  · rw [plain_write_of_finite hExact]
    exact (Numeral.signChars negative).append (Numeral.positionalChars (List.forall_mem_nil _) _)

theorem isBlank_of_isNumeral {c : Char} (h : isNumeral c = true) : Text.isBlank c = false := by
  rw [Bool.eq_false_iff]
  intro hBlank
  simp only [isNumeral, not_isDigit_of_isBlank hBlank, Bool.false_or, Bool.or_eq_true,
    decide_eq_true_eq] at h
  rcases h with ((rfl | rfl) | rfl) | rfl <;> exact absurd hBlank (by decide)

/-- There is nothing to trim from a number. -/
theorem Numeral.trimChars {cs : List Char} (h : Numeral cs) : Text.trimChars cs = cs :=
  Text.trimChars_eq_self (fun c hc => isBlank_of_isNumeral (h c (List.mem_of_head? hc)))
    (fun c hc => isBlank_of_isNumeral (h c (List.mem_of_getLast? hc)))

end RowFormula.Number
