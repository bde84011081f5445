import RowFormula.Proofs.Number.Packing
import RowFormula.Number.Whole

/-! The integers among the doubles. Up to `2 ^ 53` every integer is a double, products and quotients
of such integers are exact, and no greater integer is taken for one of them. -/
namespace RowFormula.Number

/-- The number of integers from zero that are all doubles. -/
def exactLimit : ℕ := 2 ^ 53

/-- The double stands for the integer. -/
def Holds (x : Float) (n : ℤ) : Prop :=
  ∃ mantissa exponent, exact x = .finite (decide (n < 0)) mantissa exponent ∧
    (mantissa * 2 ^ exponent : ℚ) = n.natAbs

theorem Holds.pos {n : ℤ} {mantissa : ℕ} {exponent : ℤ}
    (h : (mantissa * 2 ^ exponent : ℚ) = n.natAbs) : 0 < mantissa ↔ n ≠ 0 := by
  have hUnit : (0 : ℚ) < 2 ^ exponent := by positivity
  rw [← Int.natAbs_pos]
  constructor
  · intro hPos
    have hValue : (0 : ℚ) < mantissa * 2 ^ exponent := mul_pos (Nat.cast_pos.mpr hPos) hUnit
    rw [h] at hValue
    exact_mod_cast hValue
  · intro hPos
    have hValue : (0 : ℚ) < mantissa * 2 ^ exponent := h ▸ Nat.cast_pos.mpr hPos
    exact_mod_cast pos_of_mul_pos_left hValue hUnit.le

/-- The double that rounds to a canonical mantissa and exponent has them. -/
theorem exact_nearest {n d mantissa : ℕ} {exponent : ℤ} (hd : 0 < d)
    (canonical : Canonical mantissa exponent) (pos : 0 < mantissa)
    (h : RoundsTo (n / d) mantissa exponent) (negative : Bool) :
    exact (nearest negative n d) = .finite negative mantissa exponent := by
  have hn : n ≠ 0 := by
    rintro rfl
    simpa using h.pos pos
  rw [nearest, if_neg hn]
  exact exact_ofBits canonical pos (nearestBits_eq hd canonical pos h) negative

/-- A positive integer below the limit, shifted as far to the left as a mantissa reaches. -/
theorem exists_canonical_of_lt {n : ℕ} (hPos : 0 < n) (h : n < exactLimit) :
    ∃ mantissa exponent, Canonical mantissa exponent ∧ exponent ≤ 1 ∧
      (mantissa * 2 ^ exponent : ℚ) = n := by
  have hTop := infinityBits_eq
  have hLog : n.log2 ≤ 52 := Nat.lt_succ_iff.mp ((Nat.log2_lt hPos.ne').mpr h)
  have hSteps : 2 ^ n.log2 * 2 ^ (52 - n.log2) = 2 ^ 52 := by
    rw [← pow_add, Nat.add_sub_cancel' hLog]
  have hLarge : 2 ^ 52 ≤ n * 2 ^ (52 - n.log2) :=
    hSteps ▸ Nat.mul_le_mul_right _ (Nat.log2_self_le hPos.ne')
  have hShort : n * 2 ^ (52 - n.log2) < 2 ^ 53 := by
    calc n * 2 ^ (52 - n.log2) < 2 ^ (n.log2 + 1) * 2 ^ (52 - n.log2) :=
          Nat.mul_lt_mul_of_pos_right Nat.lt_log2_self (Nat.two_pow_pos _)
      _ = 2 * (2 ^ n.log2 * 2 ^ (52 - n.log2)) := by ring
      _ = 2 ^ 53 := by rw [hSteps]; rfl
  refine ⟨n * 2 ^ (52 - n.log2), (n.log2 : ℤ) - 52,
    ⟨hShort, by omega, Or.inl hLarge, by omega⟩, by omega, ?_⟩
  push_cast
  rw [mul_assoc, ← zpow_natCast, ← zpow_add₀ two_ne_zero, Nat.cast_sub hLog]
  norm_num

/-- A positive integer up to the limit has a canonical mantissa and exponent. -/
theorem exists_canonical {n : ℕ} (hPos : 0 < n) (h : n ≤ exactLimit) :
    ∃ mantissa exponent, Canonical mantissa exponent ∧ exponent ≤ 1 ∧
      (mantissa * 2 ^ exponent : ℚ) = n := by
  rcases h.lt_or_eq with hBelow | rfl
  · exact exists_canonical_of_lt hPos hBelow
  · refine ⟨2 ^ 52, 1, ⟨by decide, by decide, Or.inl le_rfl, ?_⟩, le_rfl, ?_⟩
    · rw [infinityBits_eq]
      decide
    · rw [exactLimit]
      norm_num

/-- An integer in the exact range is a double exactly, with a mantissa and an exponent. -/
theorem exact_ofInt {n : ℤ} (hZero : n ≠ 0) (h : n.natAbs ≤ exactLimit) :
    ∃ mantissa exponent, Canonical mantissa exponent ∧ 0 < mantissa ∧ exponent ≤ 1 ∧
      exact (ofInt n) = .finite (decide (n < 0)) mantissa exponent ∧
      (mantissa * 2 ^ exponent : ℚ) = n.natAbs := by
  obtain ⟨mantissa, exponent, canonical, hExponent, hValue⟩ :=
    exists_canonical (Int.natAbs_pos.mpr hZero) h
  have hPos := (Holds.pos hValue).mpr hZero
  have hRounds := RoundsTo.self mantissa exponent
  rw [hValue, ← div_one (n.natAbs : ℚ), ← Nat.cast_one] at hRounds
  exact ⟨mantissa, exponent, canonical, hPos, hExponent,
    exact_nearest Nat.one_pos canonical hPos hRounds _, hValue⟩

/-- Integers up to the limit are doubles. -/
theorem holds_ofInt {n : ℤ} (h : n.natAbs ≤ exactLimit) : Holds (ofInt n) n := by
  by_cases hZero : n = 0
  · subst hZero
    exact ⟨0, -1074, by decide +kernel, by simp⟩
  · obtain ⟨mantissa, exponent, -, -, -, hExact, hValue⟩ := exact_ofInt hZero h
    exact ⟨mantissa, exponent, hExact, hValue⟩

namespace Holds

variable {x y : Float} {m n : ℤ}

/-- Only one double stands for an integer. -/
theorem eq_ofInt (h : Holds x n) : x = ofInt n := by
  obtain ⟨mantissa, exponent, hExact, hValue⟩ := h
  by_cases hZero : n = 0
  · subst hZero
    have hMantissa : mantissa = 0 := by
      have hNot := mt (Holds.pos hValue).mp
      omega
    obtain ⟨canonical, hBits⟩ := canonical_of_exact hExact
    have hNormal := canonical.normal
    have hPattern : x.toBits = 0 := by
      rw [← UInt64.toNat_inj, hBits, hMantissa]
      have hLeast : exponent = -1074 := by omega
      rw [hLeast]
      rfl
    rw [← Float.ofBits_toBits x, hPattern]
    rfl
  · have hRounds := RoundsTo.self mantissa exponent
    rw [hValue, ← div_one (n.natAbs : ℚ), ← Nat.cast_one] at hRounds
    exact (nearest_eq hExact ((Holds.pos hValue).mpr hZero) Nat.one_pos hRounds).symm

/-- The mantissa of an integer ends in zeros as far as its exponent goes below the point. -/
theorem mantissa_eq {mantissa : ℕ} {exponent : ℤ}
    (h : (mantissa * 2 ^ exponent : ℚ) = n.natAbs) :
    mantissa * twoTo exponent.toNat = n.natAbs * twoTo (-exponent).toNat := by
  have hUnit : (twoTo (-exponent).toNat : ℚ) ≠ 0 := Nat.cast_ne_zero.mpr (twoTo_pos _).ne'
  rw [two_zpow, ← mul_div_assoc, div_eq_iff hUnit] at h
  exact_mod_cast h

/-- Nothing is cut off from an integer. -/
theorem wholePart_eq {mantissa : ℕ} {exponent : ℤ}
    (h : (mantissa * 2 ^ exponent : ℚ) = n.natAbs) :
    wholePart (decide (n < 0)) mantissa exponent = n := by
  rw [wholePart, mantissa_eq h, Nat.mul_div_cancel _ (twoTo_pos _)]
  simp only [decide_eq_true_eq]
  split <;> omega

/-- A double that holds an integer is finite. -/
theorem isFinite_eq (h : Holds x n) : isFinite x = true := by
  obtain ⟨mantissa, exponent, hExact, -⟩ := h
  rw [isFinite, hExact]

/-- A double that holds an integer in the exact range is cut to it. -/
theorem toInt64_eq (h : Holds x n) (hLimit : n.natAbs ≤ exactLimit) : toInt64 x = n := by
  obtain ⟨mantissa, exponent, hExact, hValue⟩ := h
  have hTop := twoTo_sixtyThree
  unfold exactLimit at hLimit
  simp only [toInt64, clamp, hExact, wholePart_eq hValue]
  rw [hTop]
  omega

/-- A double that holds an integer has nothing to cut off. -/
theorem round_truncate (h : Holds x n) : round .truncate x = x := by
  obtain ⟨mantissa, exponent, hExact, hValue⟩ := id h
  simp only [round, hExact]
  split
  · rfl
  · rename_i hBelow
    have hMantissa := mantissa_eq hValue
    have hWhole : twoTo exponent.toNat = 1 := by
      rw [Int.toNat_of_nonpos (by omega)]
      rfl
    rw [hWhole, mul_one] at hMantissa
    rw [hMantissa, Nat.mul_div_cancel _ (twoTo_pos _), Rounding.magnitude]
    exact h.eq_ofInt.symm

end Holds

section Arithmetic

variable {m n : ℤ} (hPos : 0 < n) (hn : n.natAbs ≤ exactLimit) (h : (m * n).natAbs ≤ exactLimit)

theorem unpack_ofInt_zero : (ofInt 0).toModel.unpack = .zero .positive := rfl

include hPos h in
theorem natAbs_le_of_mul : m.natAbs ≤ exactLimit := by
  rw [Int.natAbs_mul] at h
  exact (Nat.le_mul_of_pos_right _ (Int.natAbs_pos.mpr hPos.ne')).trans h

include hPos in
theorem decide_mul_neg : decide (m * n < 0) = (decide (m < 0) != decide (n < 0)) := by
  simp [mul_neg_iff, hPos, hPos.not_gt]

include hPos hn h

/-- Products of integers are exact. A positive factor keeps the sign of a zero. -/
theorem ofInt_mul : ofInt m * ofInt n = ofInt (m * n) := by
  obtain ⟨mantissaN, exponentN, -, hPosN, -, hExactN, hValueN⟩ := exact_ofInt hPos.ne' hn
  by_cases hZero : m = 0
  · subst hZero
    have hUnpack := unpack_of_exact hExactN hPosN
    rw [decide_eq_false hPos.not_gt] at hUnpack
    rw [zero_mul]
    change Float.ofModel (.pack ((ofInt 0).toModel.unpack.mul _ (ofInt n).toModel.unpack)) = _
    rw [unpack_ofInt_zero, hUnpack]
    rfl
  · obtain ⟨mantissaM, exponentM, -, hPosM, -, hExactM, hValueM⟩ :=
      exact_ofInt hZero (natAbs_le_of_mul hPos h)
    obtain ⟨mantissa, exponent, canonical, hPosP, -, -, hValue⟩ :=
      exact_ofInt (mul_ne_zero hZero hPos.ne') h
    refine Holds.eq_ofInt ⟨mantissa, exponent, ?_, hValue⟩
    rw [decide_mul_neg hPos]
    apply exact_mul hExactM hPosM hExactN hPosN canonical hPosP
    rw [hValueM, hValueN, hValue, Int.natAbs_mul, Nat.cast_mul]

/-- Dividing a product by a factor gives the other one, exactly. -/
theorem ofInt_div : ofInt (m * n) / ofInt n = ofInt m := by
  obtain ⟨mantissaN, exponentN, -, hPosN, -, hExactN, hValueN⟩ := exact_ofInt hPos.ne' hn
  by_cases hZero : m = 0
  · subst hZero
    have hUnpack := unpack_of_exact hExactN hPosN
    rw [decide_eq_false hPos.not_gt] at hUnpack
    rw [zero_mul]
    change Float.ofModel (.pack ((ofInt 0).toModel.unpack.div _ (ofInt n).toModel.unpack)) = _
    rw [unpack_ofInt_zero, hUnpack]
    rfl
  · obtain ⟨mantissa, exponent, canonical, hPosM, -, -, hValue⟩ :=
      exact_ofInt hZero (natAbs_le_of_mul hPos h)
    obtain ⟨mantissaP, exponentP, -, hPosP, -, hExactP, hValueP⟩ :=
      exact_ofInt (mul_ne_zero hZero hPos.ne') h
    refine Holds.eq_ofInt ⟨mantissa, exponent, ?_, hValue⟩
    have hSign : decide (m < 0) = (decide (m * n < 0) != decide (n < 0)) := by
      rw [decide_mul_neg hPos]
      simp
    rw [hSign]
    apply exact_div hExactP hPosP hExactN hPosN canonical hPosM
    rw [hValueP, hValueN, hValue, Int.natAbs_mul, Nat.cast_mul]

end Arithmetic

section Magnitude

variable {x : Float} {mantissa : ℕ} {exponent : ℤ}

/-- A double stands at its pattern, on the side of its sign. -/
theorem place?_of_exact {negative : Bool} (h : exact x = .finite negative mantissa exponent) :
    place? x = some (if negative then -(((exponent + 1074).toNat * 2 ^ 52 + mantissa : ℕ) : ℤ)
      else ((exponent + 1074).toNat * 2 ^ 52 + mantissa : ℕ)) := by
  obtain ⟨canonical, hBits⟩ := canonical_of_exact h
  have hBelow := canonical.below
  rw [infinityBits_eq] at hBelow
  simp only [place?, twoTo_sixtyThree, infinityBits_eq, hBits]
  cases negative
  · rw [if_neg Bool.false_ne_true, if_neg Bool.false_ne_true, if_neg (by omega),
      if_neg (by omega), Nat.add_zero, Nat.mod_eq_of_lt (by omega)]
  · rw [if_pos rfl, if_pos rfl, if_neg (by omega), if_pos (by omega), Nat.add_mod_right,
      Nat.mod_eq_of_lt (by omega)]

theorem exact_abs {negative : Bool} (h : exact x = .finite negative mantissa exponent)
    (pos : 0 < mantissa) : exact x.abs = .finite false mantissa exponent := by
  change exact (.ofModel (.pack x.toModel.unpack.abs)) = _
  rw [unpack_of_exact h pos]
  exact exact_pack (canonical_of_exact h).1 pos .positive

/-- Integers up to the limit stay below a greater double. -/
theorem abs_ofInt_lt {n : ℤ} (h : n.natAbs ≤ exactLimit) {bound : Float} {p : ℤ}
    (hPlace : place? bound = some p) (hBound : 1077 * 2 ^ 52 ≤ p) : (ofInt n).abs < bound := by
  rw [lt_iff_order?, order?, hPlace]
  by_cases hZero : n = 0
  · have hNone : place? (ofInt 0).abs = some 0 := by decide +kernel
    rw [hZero, hNone]
    exact congrArg some (Int.compare_eq_lt.mpr (by omega))
  · obtain ⟨mantissa, exponent, canonical, hPos, hExponent, hExact, -⟩ := exact_ofInt hZero h
    have hShort := canonical.short
    rw [place?_of_exact (exact_abs hExact hPos), if_neg Bool.false_ne_true]
    exact congrArg some (Int.compare_eq_lt.mpr (by omega))

end Magnitude

section Order

/-- The greater of two numbers has the greater pattern. -/
theorem Canonical.steps_lt {m n : ℕ} {e f : ℤ} (hm : Canonical m e) (hn : Canonical n f)
    (h : (m * 2 ^ e : ℚ) < n * 2 ^ f) :
    (e + 1074).toNat * 2 ^ 52 + m < (f + 1074).toNat * 2 ^ 52 + n := by
  obtain ⟨hShortM, hLeastM, hNormalM, -⟩ := hm
  obtain ⟨hShortN, hLeastN, hNormalN, -⟩ := hn
  rcases lt_trichotomy e f with hLt | rfl | hGt
  · omega
  · have hLess : (m : ℚ) < n := lt_of_mul_lt_mul_right h (by positivity)
    have hSteps : m < n := by exact_mod_cast hLess
    omega
  · -- The last place of `m` is twice that of `n` or more, and its mantissa is not short.
    have hLarge : (2 : ℚ) ^ 52 ≤ m := by exact_mod_cast hNormalM.resolve_right (by omega)
    have hSmall : (n : ℚ) < 2 ^ 53 := by exact_mod_cast hShortN
    have hUnit : (0 : ℚ) < 2 ^ f := by positivity
    have hPower : (2 : ℚ) ^ (f + 1) ≤ 2 ^ e := zpow_le_zpow_right₀ (by norm_num) hGt
    have hContradiction : (n * 2 ^ f : ℚ) < m * 2 ^ e := by
      calc (n * 2 ^ f : ℚ) < 2 ^ 53 * 2 ^ f := mul_lt_mul_of_pos_right hSmall hUnit
        _ = 2 ^ 52 * 2 ^ (f + 1) := by
          rw [zpow_add_one₀ two_ne_zero]
          ring
        _ ≤ m * 2 ^ e := mul_le_mul hLarge hPower (by positivity) (by positivity)
    exact absurd h hContradiction.not_gt

variable {x y : Float} {m n : ℤ}

/-- Doubles that hold integers compare as these do. -/
theorem Holds.order?_of_lt (hx : Holds x m) (hy : Holds y n) (h : m < n) :
    order? x y = some .lt := by
  obtain ⟨mantissa, exponent, hExactX, hValueX⟩ := hx
  obtain ⟨mantissa', exponent', hExactY, hValueY⟩ := hy
  have hCanonical := (canonical_of_exact hExactX).1
  have hCanonical' := (canonical_of_exact hExactY).1
  have hUp (hLess : m.natAbs < n.natAbs) := hCanonical.steps_lt hCanonical'
    (by rw [hValueX, hValueY]; exact_mod_cast hLess)
  have hDown (hLess : n.natAbs < m.natAbs) := hCanonical'.steps_lt hCanonical
    (by rw [hValueX, hValueY]; exact_mod_cast hLess)
  rw [order?, place?_of_exact hExactX, place?_of_exact hExactY]
  refine congrArg some (Int.compare_eq_lt.mpr ?_)
  simp only [decide_eq_true_eq]
  split <;> split
  · have hSteps := hDown (by omega)
    omega
  · have hPos := (Holds.pos hValueX).mpr (by omega)
    omega
  · omega
  · have hSteps := hUp (by omega)
    omega

theorem Holds.order?_self (h : Holds x n) : order? x x = some .eq := by
  obtain ⟨mantissa, exponent, hExact, -⟩ := h
  rw [order?, place?_of_exact hExact]
  exact congrArg some (Int.compare_eq_eq.mpr rfl)

/-- Doubles that stand for integers are ordered as these are. -/
theorem Holds.order?_eq (hx : Holds x m) (hy : Holds y n) :
    order? x y = some (compare m n) := by
  rcases lt_trichotomy m n with hLt | rfl | hGt
  · rw [hx.order?_of_lt hy hLt, Int.compare_eq_lt.mpr hLt]
  · rw [hx.eq_ofInt, hy.eq_ofInt.symm, hy.order?_self, Int.compare_eq_eq.mpr rfl]
  · rw [← order?_swap, hy.order?_of_lt hx hGt, Int.compare_eq_gt.mpr hGt]
    rfl

end Order

section Beyond

theorem le_divideToEven (n d : ℕ) : n / d ≤ divideToEven n d := by
  unfold divideToEven
  dsimp only
  split <;> omega

section Large

variable {n : ℕ} (h : exactLimit ≤ n)

include h

theorem le_log2 : 53 ≤ n.log2 :=
  (Nat.le_log2 (lt_of_lt_of_le (by decide) h).ne').mpr h

/-- The last place of a large integer is that of its length. -/
theorem lastPlace_natCast : lastPlace n 1 = (n.log2 : ℤ) - 52 := by
  have hLog := le_log2 h
  have hPos : 0 < n := lt_of_lt_of_le (by decide) h
  have hLower : (2 : ℚ) ^ (n.log2 : ℤ) ≤ n := by
    rw [zpow_natCast]
    exact_mod_cast Nat.log2_self_le hPos.ne'
  have hUpper : (n : ℚ) < 2 ^ (n.log2 + 1 : ℤ) := by
    rw [← Nat.cast_succ, zpow_natCast]
    exact_mod_cast Nat.lt_log2_self
  refine lastPlace_eq hPos Nat.one_pos (by omega) ?_ (Or.inl ?_)
  · rwa [Nat.cast_one, div_one, show (n.log2 : ℤ) - 52 + 53 = n.log2 + 1 by omega]
  · rwa [Nat.cast_one, div_one, sub_add_cancel]

/-- From the limit on the last place of a double is not below two. -/
theorem le_nearestBits : 1076 * 2 ^ 52 ≤ nearestBits n 1 := by
  have hLog := le_log2 h
  have hMantissa : 2 ^ 52 ≤ divideToEven (n * twoTo (-((n.log2 : ℤ) - 52)).toNat)
      (1 * twoTo ((n.log2 : ℤ) - 52).toNat) := by
    have hNone : (-((n.log2 : ℤ) - 52)).toNat = 0 := by omega
    have hSteps : ((n.log2 : ℤ) - 52).toNat = n.log2 - 52 := by omega
    refine le_trans ?_ (le_divideToEven _ _)
    rw [hNone, hSteps, Nat.le_div_iff_mul_le (Nat.mul_pos Nat.one_pos (twoTo_pos _))]
    calc 2 ^ 52 * (1 * twoTo (n.log2 - 52)) = 2 ^ (52 + (n.log2 - 52)) := by
          rw [one_mul, pow_add]
          rfl
      _ = 2 ^ n.log2 := by rw [Nat.add_sub_cancel' (by omega)]
      _ ≤ n := Nat.log2_self_le (lt_of_lt_of_le (by decide) h).ne'
      _ = n * twoTo 0 := (Nat.mul_one n).symm
  have hBits : twoTo 52 = 2 ^ 52 := by decide
  simp only [nearestBits, lastPlace_natCast h, infinityBits_eq, hBits]
  omega

end Large

theorem exact_ofBits_infinity (negative : Bool) :
    exact (.ofBits (.ofNat (if negative then infinityBits + twoTo 63 else infinityBits))) =
      .infinite negative := by
  cases negative <;> decide +kernel

/-- A pattern counts the steps of a mantissa from the least normal one on. -/
theorem exists_steps {magnitude : ℕ} (h : 1076 * 2 ^ 52 ≤ magnitude)
    (hFinite : magnitude < infinityBits) :
    ∃ mantissa exponent, Canonical mantissa exponent ∧ 2 ^ 52 ≤ mantissa ∧ 1 ≤ exponent ∧
      magnitude = (exponent + 1074).toNat * 2 ^ 52 + mantissa := by
  have hTop := infinityBits_eq
  exact ⟨magnitude % 2 ^ 52 + 2 ^ 52, (magnitude / 2 ^ 52 : ℕ) - 1075,
    ⟨by omega, by omega, Or.inl (by omega), by omega⟩, by omega, by omega, by omega⟩

/-- Doubles whose last place is two or more have whole parts beyond the limit. -/
theorem exactLimit_le_toInt64_ofBits {magnitude : ℕ} (h : 1076 * 2 ^ 52 ≤ magnitude)
    (hMost : magnitude ≤ infinityBits) (negative : Bool) :
    exactLimit ≤ (toInt64 (.ofBits (.ofNat
      (if negative then magnitude + twoTo 63 else magnitude)))).natAbs := by
  rcases hMost.eq_or_lt with rfl | hFinite
  · simp only [toInt64, clamp, exact_ofBits_infinity]
    rw [twoTo_sixtyThree]
    unfold exactLimit
    split <;> omega
  · obtain ⟨mantissa, exponent, canonical, hLeast, hExponent, hSteps⟩ := exists_steps h hFinite
    have hTwo : 2 ^ 1 ≤ twoTo exponent.toNat := Nat.pow_le_pow_right (by decide) (by omega)
    have hWhole := Nat.mul_le_mul hLeast hTwo
    have hNone : twoTo (-exponent).toNat = 1 := by
      rw [Int.toNat_of_nonpos (by omega)]
      rfl
    have hPos : 0 < mantissa := by omega
    simp only [toInt64, clamp, exact_ofBits canonical hPos hSteps, wholePart, hNone, Nat.div_one]
    rw [twoTo_sixtyThree]
    unfold exactLimit
    split <;> omega

/-- An integer beyond the limit does not come near those that are doubles. -/
theorem exactLimit_le_toInt64 {n : ℤ} (h : exactLimit ≤ n.natAbs) :
    exactLimit ≤ (toInt64 (ofInt n)).natAbs := by
  rw [ofInt, nearest, if_neg (lt_of_lt_of_le (by decide) h).ne']
  exact exactLimit_le_toInt64_ofBits (le_nearestBits h) (Nat.min_le_right _ _) _

end Beyond

end RowFormula.Number
