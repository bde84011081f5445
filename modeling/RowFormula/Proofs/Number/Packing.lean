import RowFormula.Proofs.Number.Rounding

/-! Exact results. A product or a quotient that is a double itself is not rounded: the operation
only drops zeros from the end of its mantissa. -/
namespace RowFormula.Number

open Float.Model (UnpackedFloat totalExponent)
open Float.Model.Format (binary64)
open Float.Model.UnpackedFloat

/-- The content of an unpacked double. -/
def exactOf : UnpackedFloat → Exact
  | .notANumber => .nan
  | .infinity sign => .infinite (sign == .negative)
  | .zero sign => .finite (sign == .negative) 0 (-1074)
  | .finite sign mantissa exponent _ => .finite (sign == .negative) mantissa exponent

theorem signOf_beq (bits : ℕ) : (signOf bits == Sign.negative) = decide (2 ^ 63 ≤ bits) := by
  unfold signOf
  split
  · rename_i h
    rw [decide_eq_true h]
    rfl
  · rename_i h
    rw [decide_eq_false h]
    rfl

/-- The content of a double is what it unpacks to. -/
theorem exact_eq (x : Float) : exact x = exactOf x.toModel.unpack := by
  have hUnpacks := unpacks_unpack x.toBits.toBitVec
  change Unpacks x.toBits.toNat x.toModel.unpack at hUnpacks
  have hTop := infinityBits_eq
  have hBits : twoTo 52 = 2 ^ 52 := by decide
  simp only [exact, hBits, twoTo_sixtyThree]
  generalize x.toModel.unpack = u at hUnpacks ⊢
  cases hUnpacks with
  | notANumber above =>
      rw [if_pos (by omega), if_neg (by omega)]
      rfl
  | infinity top =>
      rw [if_pos (by omega), if_pos (by omega), exactOf, signOf_beq]
  | zero bottom =>
      rw [if_neg (by omega), if_pos (by omega), exactOf, signOf_beq]
      congr 1
      omega
  | finite pos steps below short least normal =>
      rw [if_neg (by omega), exactOf, signOf_beq]
      split
      · congr 1 <;> omega
      · congr 1 <;> omega

/-- The sign of a double, as it is unpacked. -/
def signOfBool (negative : Bool) : Sign := if negative then .negative else .positive

/-- The unpacked form of a double that is not zero. -/
theorem unpack_of_exact {x : Float} {negative : Bool} {mantissa : ℕ} {exponent : ℤ}
    (h : exact x = .finite negative mantissa exponent) (pos : 0 < mantissa) :
    x.toModel.unpack =
      .finite (signOfBool negative) mantissa exponent pos := by
  rw [exact_eq] at h
  generalize x.toModel.unpack = u at h ⊢
  cases u with
  | notANumber => cases h
  | infinity sign => cases h
  | zero sign =>
      cases h
      exact absurd pos (Nat.lt_irrefl 0)
  | finite sign mantissa exponent pos =>
      cases h
      cases sign <;> rfl

section Canonical

variable {mantissa : ℕ} {exponent : ℤ}

/-- Patterns determine their mantissa and exponent. -/
theorem Unpacks.eq_finite {bits : ℕ} {u : UnpackedFloat} (unpacks : Unpacks bits u)
    (canonical : Canonical mantissa exponent) (pos : 0 < mantissa)
    (h : bits % 2 ^ 63 = (exponent + 1074).toNat * 2 ^ 52 + mantissa) :
    u = .finite (signOf bits) mantissa exponent pos := by
  have hTop := infinityBits_eq
  obtain ⟨hShort, hLeast, hNormal, hBelow⟩ := canonical
  cases unpacks with
  | notANumber above => omega
  | infinity top => omega
  | zero bottom => omega
  | @finite m e _ steps below short least normal =>
      have hExponent : e = exponent := by omega
      have hMantissa : m = mantissa := by omega
      subst hExponent hMantissa
      rfl

/-- A pattern is made of its sign, its exponent and its mantissa. -/
theorem toNat_packComponents (sign : Sign) (e : BitVec 11) (m : BitVec 52) :
    (packComponents binary64 sign e m).toNat =
      sign.toBitVec.toNat * 2 ^ 63 + e.toNat * 2 ^ 52 + m.toNat := by
  have hm := m.isLt
  have he := e.isLt
  simp only [packComponents, BitVec.toNat_append]
  rw [← Nat.shiftLeft_add_eq_or_of_lt he, ← Nat.shiftLeft_add_eq_or_of_lt hm]
  simp only [Nat.shiftLeft_eq]
  ring

/-- A canonical mantissa and exponent are packed into the pattern that counts the steps of the
mantissa. -/
theorem toNat_pack (canonical : Canonical mantissa exponent) (pos : 0 < mantissa) (sign : Sign) :
    (UnpackedFloat.pack binary64 (.finite sign mantissa exponent pos)).toNat =
      sign.toBitVec.toNat * 2 ^ 63 + ((exponent + 1074).toNat * 2 ^ 52 + mantissa) := by
  have hTop := infinityBits_eq
  obtain ⟨hShort, hLeast, hNormal, hBelow⟩ := canonical
  have hLog : mantissa.log2 + 1 = binary64.mantissaBits ↔ 2 ^ 52 ≤ mantissa := by
    have hUpper := (Nat.log2_lt pos.ne').mpr hShort
    have hLower := Nat.le_log2 (k := 52) pos.ne'
    change mantissa.log2 + 1 = 53 ↔ _
    omega
  have hBiased : (exponent + binary64.exponentBias + binary64.mantissaBitsWithoutImplicit).toNat =
      (exponent + 1075).toNat := by
    congr 1
    change exponent + 1023 + 52 = _
    omega
  simp only [UnpackedFloat.pack, hLog, hBiased]
  rw [if_neg (by change ¬2048 ≤ _; omega)]
  split
  · rw [toNat_packComponents, BitVec.toNat_ofNat, BitVec.toNat_ofNat]
    omega
  · rw [toNat_packComponents]
    simp only [BitVec.toNat_ofNat]
    omega

theorem toNat_toBitVec (sign : Sign) :
    sign.toBitVec.toNat = if sign == .negative then 1 else 0 := by
  cases sign <;> rfl

/-- A canonical mantissa and exponent are packed without loss. -/
theorem exact_pack (canonical : Canonical mantissa exponent) (pos : 0 < mantissa) (sign : Sign) :
    exact (.ofModel (.pack (.finite sign mantissa exponent pos))) =
      .finite (sign == .negative) mantissa exponent := by
  have hUnpacks := unpacks_unpack (UnpackedFloat.pack binary64 (.finite sign mantissa exponent pos))
  have hBelow := canonical.below
  have hTop := infinityBits_eq
  have hPattern := toNat_pack canonical pos sign
  have hSign : signOf (UnpackedFloat.pack binary64 (.finite sign mantissa exponent pos)).toNat =
      sign := by
    rw [hPattern, signOf, toNat_toBitVec]
    cases sign
    · rw [if_pos (by simp)]
    · rw [if_neg (by simp; omega)]
  have hUnpack := hUnpacks.eq_finite canonical pos (by
    have hBit : sign.toBitVec.toNat ≤ 1 := by
      rw [toNat_toBitVec]
      split <;> decide
    rw [hPattern]
    omega)
  rw [hSign] at hUnpack
  rw [exact_eq]
  change exactOf (unpack binary64 (UnpackedFloat.pack binary64 _)) = _
  rw [hUnpack, exactOf]

/-- The content of a signed pattern that counts the steps of a canonical mantissa. -/
theorem exact_ofBits {magnitude : ℕ} (canonical : Canonical mantissa exponent)
    (pos : 0 < mantissa) (h : magnitude = (exponent + 1074).toNat * 2 ^ 52 + mantissa)
    (negative : Bool) :
    exact (.ofBits (.ofNat (if negative then magnitude + twoTo 63 else magnitude))) =
      .finite negative mantissa exponent := by
  have hBelow : magnitude < 2047 * 2 ^ 52 := by
    rw [h, ← infinityBits_eq]
    exact canonical.below
  rw [twoTo_sixtyThree]
  generalize hBits : (if negative then magnitude + 2 ^ 63 else magnitude) = bits
  have hWidth : bits < 2 ^ 64 := by
    rw [← hBits]
    split <;> omega
  have hUnpacks := unpacks_unpack (BitVec.ofNat 64 bits)
  rw [BitVec.toNat_ofNat, Nat.mod_eq_of_lt hWidth] at hUnpacks
  change exact (.ofModel (.pack (unpack binary64 (BitVec.ofNat 64 bits)))) = _
  rw [hUnpacks.eq_finite canonical pos (by rw [← h, ← hBits]; split <;> omega),
    exact_pack canonical pos, signOf_beq, ← hBits]
  congr 1
  cases negative
  · exact decide_eq_false (by rw [if_neg Bool.false_ne_true]; omega)
  · exact decide_eq_true (by rw [if_pos rfl]; omega)

end Canonical

section Rounding

/-- Zeros at the end of a mantissa are dropped without a trace. -/
theorem shiftRight_exact (mantissa k : ℕ) :
    (ExtendedMantissa.mk (mantissa * 2 ^ k) false false) >>> k =
      ExtendedMantissa.mk mantissa false false := by
  change k.repeat ExtendedMantissa.shiftRightOne _ = _
  induction k generalizing mantissa with
  | zero => simp [Nat.repeat]
  | succ k ih =>
      rw [Nat.repeat, Nat.pow_succ', ← Nat.mul_assoc, ih]
      simp [ExtendedMantissa.shiftRightOne]

/-- A power of two as factor shifts the logarithm. -/
theorem log2_mul_two_pow {n : ℕ} (h : 0 < n) (k : ℕ) : (n * 2 ^ k).log2 = n.log2 + k := by
  rw [Nat.log2_eq_iff (Nat.mul_pos h (Nat.two_pow_pos k)).ne', Nat.add_right_comm, Nat.pow_add,
    Nat.pow_add]
  exact ⟨Nat.mul_le_mul_right _ (Nat.log2_self_le h.ne'),
    Nat.mul_lt_mul_of_pos_right Nat.lt_log2_self (Nat.two_pow_pos k)⟩

theorem log2_mul_le {m n : ℕ} (hm : 0 < m) (hn : 0 < n) :
    (m * n).log2 ≤ m.log2 + n.log2 + 1 := by
  have hLt : m * n < 2 ^ (m.log2 + n.log2 + 2) := by
    calc m * n < 2 ^ (m.log2 + 1) * 2 ^ (n.log2 + 1) :=
          Nat.mul_lt_mul'' Nat.lt_log2_self Nat.lt_log2_self
      _ = 2 ^ (m.log2 + n.log2 + 2) := by ring
  have hLog := (Nat.log2_lt (Nat.mul_pos hm hn).ne').mpr hLt
  omega

/-- The exponent of a canonical form is the one that rounding aims at. -/
theorem targetExponent_eq {mantissa : ℕ} {exponent : ℤ} (canonical : Canonical mantissa exponent)
    (pos : 0 < mantissa) (k : ℕ) :
    binary64.targetExponent (totalExponent (mantissa * 2 ^ k) (exponent - k)) = exponent := by
  obtain ⟨hShort, hLeast, hNormal, -⟩ := canonical
  have hUpper := (Nat.log2_lt pos.ne').mpr hShort
  have hLower := Nat.le_log2 (k := 52) pos.ne'
  change max ((mantissa * 2 ^ k).log2 + 1 + (exponent - k) - 53 : ℤ) (-1074) = exponent
  rw [log2_mul_two_pow pos]
  push_cast
  omega

/-- Rounding keeps what fits. -/
theorem roundWithAccuracy_exact {mantissa : ℕ} {exponent : ℤ}
    (canonical : Canonical mantissa exponent) (pos : 0 < mantissa) (sign : Sign) (k : ℕ) :
    roundWithAccuracy binary64 sign (mantissa * 2 ^ k) (exponent - k) .exact =
      .finite sign mantissa exponent pos := by
  have hShift (k : ℕ) : shiftToTargetExponent binary64 (mantissa * 2 ^ k) (exponent - k) .exact =
      (⟨mantissa, false, false⟩, exponent) := by
    have hAmount : (exponent - (exponent - k)).toNat = k := by omega
    rw [shiftToTargetExponent, targetExponent_eq canonical pos, shiftToExponent, hAmount]
    rw [ExtendedMantissa.ofMantissaAndAccuracy, shiftRight_exact]
    congr 1
    omega
  have hSelf := hShift 0
  rw [pow_zero, mul_one, Nat.cast_zero, sub_zero] at hSelf
  unfold roundWithAccuracy
  rw [hShift]
  dsimp only [ExtendedMantissa.roundedMantissa, ExtendedMantissa.accuracy,
    Accuracy.roundToNearestEven]
  simp only [hSelf, dif_neg pos.ne']

end Rounding

section Operations

/-- Powers of two that a canonical form leaves out. -/
theorem eq_mul_two_pow {n mantissa : ℕ} {place exponent : ℤ} (hPlace : place ≤ exponent)
    (h : (n * 2 ^ place : ℚ) = mantissa * 2 ^ exponent) :
    n = mantissa * 2 ^ (exponent - place).toNat := by
  have hUnit : (2 : ℚ) ^ place ≠ 0 := by positivity
  have hPower : (2 : ℚ) ^ exponent = 2 ^ (exponent - place).toNat * 2 ^ place := by
    rw [← zpow_natCast, ← zpow_add₀ two_ne_zero]
    congr 1
    omega
  rw [hPower, ← mul_assoc] at h
  exact_mod_cast mul_right_cancel₀ hUnit h

variable {x y : Float} {a b : Bool} {m n mantissa : ℕ} {e f exponent : ℤ}
  (hx : exact x = .finite a m e) (hm : 0 < m) (hy : exact y = .finite b n f) (hn : 0 < n)
  (canonical : Canonical mantissa exponent) (pos : 0 < mantissa)

include hx hm hy hn canonical pos

omit pos in
/-- A double that is a product does not end before the product of the mantissas does. -/
theorem place_le_of_mul (h : ((m * n : ℕ) * 2 ^ (e + f) : ℚ) = mantissa * 2 ^ exponent) :
    e + f ≤ exponent := by
  by_contra hNot
  have hSteps := eq_mul_two_pow (not_le.mp hNot).le h.symm
  have hTwo : 2 ≤ 2 ^ (e + f - exponent).toNat := Nat.le_self_pow (by omega) 2
  have hLeast : 2 ^ 52 ≤ m * n := by
    obtain ⟨⟨-, he, hNormalX, -⟩, -⟩ := canonical_of_exact hx
    obtain ⟨⟨-, hf, hNormalY, -⟩, -⟩ := canonical_of_exact hy
    rcases hNormalX with hLarge | hLow
    · exact hLarge.trans (Nat.le_mul_of_pos_right m hn)
    · rcases hNormalY with hLarge | hLow'
      · exact hLarge.trans (Nat.le_mul_of_pos_left n hm)
      · have hExponent := canonical.least
        omega
  have hLong := Nat.mul_le_mul hLeast hTwo
  have hShort := canonical.short
  omega

/-- A product that is a double is not rounded. -/
theorem exact_mul (h : (m * 2 ^ e * (n * 2 ^ f) : ℚ) = mantissa * 2 ^ exponent) :
    exact (x * y) = .finite (a != b) mantissa exponent := by
  have hProduct : ((m * n : ℕ) * 2 ^ (e + f) : ℚ) = mantissa * 2 ^ exponent := by
    rw [← h, zpow_add₀ two_ne_zero]
    push_cast
    ring
  have hPlace := place_le_of_mul hx hm hy hn canonical hProduct
  have hMantissa := eq_mul_two_pow hPlace hProduct
  have hRounds := roundWithAccuracy_exact canonical pos (signOfBool a * signOfBool b)
    (exponent - (e + f)).toNat
  rw [← hMantissa, Int.toNat_of_nonneg (by omega), sub_sub_cancel] at hRounds
  change exact (.ofModel (.pack (x.toModel.unpack.mul binary64 y.toModel.unpack))) = _
  rw [unpack_of_exact hx hm, unpack_of_exact hy hn]
  change exact (.ofModel (.pack
    (roundWithAccuracy binary64 (signOfBool a * signOfBool b) (m * n) (e + f) .exact))) = _
  rw [hRounds, exact_pack canonical pos]
  congr 1
  cases a <;> cases b <;> rfl

/-- The place down to which a quotient of doubles is computed. -/
def quotientPlace (m : ℕ) (e : ℤ) (n : ℕ) (f : ℤ) : ℤ :=
  min (e - f) (binary64.targetExponent (totalExponent m e - totalExponent n f))

omit hx hy in
/-- A double that is a quotient does not go below that place. -/
theorem quotientPlace_le (h : (m * 2 ^ e : ℚ) = (mantissa * n : ℕ) * 2 ^ (exponent + f)) :
    quotientPlace m e n f ≤ exponent := by
  by_cases hLow : e - f ≤ exponent
  · exact (min_le_left _ _).trans hLow
  · refine (min_le_right _ _).trans ?_
    have hSteps := eq_mul_two_pow (by omega) h.symm
    have hLog := log2_mul_two_pow hm (e - (exponent + f)).toNat
    rw [← hSteps] at hLog
    have hLess := log2_mul_le pos hn
    have hUpper := (Nat.log2_lt pos.ne').mpr canonical.short
    have hLeast := canonical.least
    change max ((m.log2 + 1 + e) - (n.log2 + 1 + f) - 53 : ℤ) (-1074) ≤ exponent
    omega

omit hx hy in
/-- The integer quotient that is computed for a double has only zeros behind its mantissa. -/
theorem exists_divCore (h : (m * 2 ^ e : ℚ) = mantissa * 2 ^ exponent * (n * 2 ^ f)) :
    ∃ place ≤ exponent, divCore binary64 m e n f =
      (mantissa * 2 ^ (exponent - place).toNat, place, .exact) := by
  have hValue : (m * 2 ^ e : ℚ) = (mantissa * n : ℕ) * 2 ^ (exponent + f) := by
    rw [h, zpow_add₀ two_ne_zero]
    push_cast
    ring
  have hPlace := quotientPlace_le hm hn canonical pos hValue
  have hFirst : quotientPlace m e n f ≤ e - f := min_le_left _ _
  generalize hName : quotientPlace m e n f = place at hPlace hFirst
  have hScaled : ((m * 2 ^ (e - f - place).toNat : ℕ) * 2 ^ (place + f) : ℚ) =
      (mantissa * n : ℕ) * 2 ^ (exponent + f) := by
    rw [← hValue]
    push_cast
    rw [mul_assoc, ← zpow_natCast, ← zpow_add₀ two_ne_zero]
    congr 2
    omega
  have hShifted : m <<< (e - f - place).toNat = mantissa * 2 ^ (exponent - place).toNat * n := by
    rw [Nat.shiftLeft_eq, eq_mul_two_pow (by omega) hScaled, add_sub_add_right_eq_sub]
    ring
  refine ⟨place, hPlace, ?_⟩
  unfold divCore
  change (m <<< (e - f - quotientPlace m e n f).toNat / n, quotientPlace m e n f,
    accuracyOfFraction (m <<< (e - f - quotientPlace m e n f).toNat % n) n) = _
  rw [hName, hShifted, Nat.mul_div_cancel _ hn, Nat.mul_mod_left]
  rfl

/-- A quotient that is a double is not rounded. -/
theorem exact_div (h : (m * 2 ^ e : ℚ) = mantissa * 2 ^ exponent * (n * 2 ^ f)) :
    exact (x / y) = .finite (a != b) mantissa exponent := by
  obtain ⟨place, hPlace, hCore⟩ := exists_divCore hm hn canonical pos h
  have hRounds := roundWithAccuracy_exact canonical pos (signOfBool a / signOfBool b)
    (exponent - place).toNat
  rw [Int.toNat_of_nonneg (by omega), sub_sub_cancel] at hRounds
  change exact (.ofModel (.pack (x.toModel.unpack.div binary64 y.toModel.unpack))) = _
  rw [unpack_of_exact hx hm, unpack_of_exact hy hn]
  change exact (.ofModel (.pack (roundWithAccuracy binary64 (signOfBool a / signOfBool b)
    (divCore binary64 m e n f).1 (divCore binary64 m e n f).2.1
    (divCore binary64 m e n f).2.2))) = _
  rw [hCore, hRounds, exact_pack canonical pos]
  congr 1
  cases a <;> cases b <;> rfl

end Operations

end RowFormula.Number
