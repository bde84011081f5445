import RowFormula.Proofs.Number.Order

/-! Rounding to doubles. The numbers that round to a double are those between the points half way to
its neighbours; such a point belongs to the double with the even mantissa. -/
namespace RowFormula.Number

/-! Powers of whole exponents, as they are counted by natural numbers. -/

/-- A power with signed exponent is a fraction of natural powers. -/
theorem zpow_eq_div {base : ℚ} (h : base ≠ 0) (k : ℤ) :
    base ^ k = base ^ k.toNat / base ^ (-k).toNat := by
  rw [← zpow_natCast, ← zpow_natCast, ← zpow_sub₀ h]
  congr 1
  omega

theorem two_zpow (k : ℤ) : (2 : ℚ) ^ k = twoTo k.toNat / twoTo (-k).toNat := by
  simpa [twoTo] using zpow_eq_div two_ne_zero k

theorem ten_zpow (k : ℤ) : (10 : ℚ) ^ k = tenTo k.toNat / tenTo (-k).toNat := by
  have hTen : (10 : ℚ) ≠ 0 := by norm_num
  simpa [tenTo] using zpow_eq_div hTen k

theorem quarter_zpow (k : ℤ) : (2 : ℚ) ^ (k - 2) = 2 ^ k / 4 := by
  rw [zpow_sub₀ two_ne_zero]
  norm_num

theorem shift_zpow (k : ℤ) (n : ℕ) : (2 : ℚ) ^ (k + n) = 2 ^ n * 2 ^ k := by
  rw [zpow_add₀ two_ne_zero, zpow_natCast, mul_comm]

/-- Great powers are compared as natural numbers, which are computed. -/
theorem two_zpow_le_ten_zpow {k l : ℕ} (h : twoTo k ≤ tenTo l) :
    (2 : ℚ) ^ (k : ℤ) ≤ 10 ^ (l : ℤ) := by
  have hCast : (twoTo k : ℚ) ≤ tenTo l := Nat.cast_le.mpr h
  simpa [twoTo, tenTo] using hCast

/-- The mantissa and the exponent of a finite double. -/
structure Canonical (mantissa : ℕ) (exponent : ℤ) : Prop where
  short : mantissa < 2 ^ 53
  least : -1074 ≤ exponent
  normal : 2 ^ 52 ≤ mantissa ∨ exponent = -1074
  below : (exponent + 1074).toNat * 2 ^ 52 + mantissa < infinityBits

/-- A finite double has a canonical mantissa and exponent, and its pattern counts the steps of the
mantissa. -/
theorem canonical_of_exact {x : Float} {negative : Bool} {mantissa : ℕ} {exponent : ℤ}
    (h : exact x = .finite negative mantissa exponent) :
    Canonical mantissa exponent ∧ x.toBits.toNat =
      (exponent + 1074).toNat * 2 ^ 52 + mantissa + if negative then 2 ^ 63 else 0 := by
  have hTop := infinityBits_eq
  have hBits : twoTo 52 = 2 ^ 52 := by decide
  have hWidth := x.toBits.toNat_lt
  have hSign : (if decide (2 ^ 63 ≤ x.toBits.toNat) = true then 2 ^ 63 else 0) =
      x.toBits.toNat / 2 ^ 63 * 2 ^ 63 := by
    simp only [decide_eq_true_eq]
    split <;> omega
  simp only [exact, hBits, twoTo_sixtyThree] at h
  split at h
  · split at h <;> cases h
  · split at h
    · obtain ⟨rfl, rfl, rfl⟩ := Exact.finite.inj h
      exact ⟨⟨by omega, by omega, by omega, by omega⟩, by rw [hSign]; omega⟩
    · obtain ⟨rfl, rfl, rfl⟩ := Exact.finite.inj h
      exact ⟨⟨by omega, by omega, by omega, by omega⟩, by rw [hSign]; omega⟩

/-- How far down the numbers go that round to a double, in quarters of a step of its mantissa. Below
a power of two the steps are half as wide. -/
def gap (mantissa : ℕ) (exponent : ℤ) : ℕ :=
  if mantissa = twoTo 52 ∧ -1074 < exponent then 1 else 2

theorem gap_le (mantissa : ℕ) (exponent : ℤ) : gap mantissa exponent ≤ 2 := by
  unfold gap
  split <;> decide

/-- The gap to the next double is not zero. -/
theorem gap_pos (mantissa : ℕ) (exponent : ℤ) : 0 < gap mantissa exponent := by
  unfold gap
  split <;> decide

/-- A number that rounds to a positive double. -/
structure RoundsTo (v : ℚ) (mantissa : ℕ) (exponent : ℤ) : Prop where
  lower : (4 * mantissa - gap mantissa exponent) * 2 ^ (exponent - 2) ≤ v
  upper : v ≤ (4 * mantissa + 2) * 2 ^ (exponent - 2)
  strict : mantissa % 2 = 1 → (4 * mantissa - gap mantissa exponent) * 2 ^ (exponent - 2) < v ∧
    v < (4 * mantissa + 2) * 2 ^ (exponent - 2)

/-- What lies properly inside the interval rounds to the double, whatever its mantissa. -/
theorem RoundsTo.of_lt {v : ℚ} {mantissa : ℕ} {exponent : ℤ}
    (lower : (4 * mantissa - gap mantissa exponent) * 2 ^ (exponent - 2) < v)
    (upper : v < (4 * mantissa + 2) * 2 ^ (exponent - 2)) : RoundsTo v mantissa exponent :=
  ⟨lower.le, upper.le, fun _ => ⟨lower, upper⟩⟩

/-- A double rounds to itself. -/
theorem RoundsTo.self (mantissa : ℕ) (exponent : ℤ) :
    RoundsTo (mantissa * 2 ^ exponent) mantissa exponent := by
  have hGap : (0 : ℚ) < gap mantissa exponent := Nat.cast_pos.mpr (gap_pos mantissa exponent)
  have hUnit : (0 : ℚ) < 2 ^ (exponent - 2) := by positivity
  have hSelf : (mantissa * 2 ^ exponent : ℚ) = 4 * mantissa * 2 ^ (exponent - 2) := by
    rw [quarter_zpow]
    ring
  rw [hSelf]
  exact .of_lt (mul_lt_mul_of_pos_right (by linarith) hUnit)
    (mul_lt_mul_of_pos_right (by linarith) hUnit)

/-- A quotient is rounded to a whole number that it is at most a half away from, when a half goes to
the even one. -/
theorem divideToEven_eq {n d m : ℕ} (hd : 0 < d) (lower : (m - 1 / 2 : ℚ) ≤ n / d)
    (upper : (n / d : ℚ) ≤ m + 1 / 2)
    (strict : m % 2 = 1 → (m - 1 / 2 : ℚ) < n / d ∧ (n / d : ℚ) < m + 1 / 2) :
    divideToEven n d = m := by
  have hd' : (0 : ℚ) < d := Nat.cast_pos.mpr hd
  rw [le_div_iff₀ hd', div_le_iff₀ hd', lt_div_iff₀ hd', div_lt_iff₀ hd'] at *
  have hLower : 2 * (m * d) ≤ 2 * n + d := by
    have h : (2 * (m * d) : ℚ) ≤ 2 * n + d := by linarith
    exact_mod_cast h
  have hUpper : 2 * n ≤ 2 * (m * d) + d := by
    have h : (2 * n : ℚ) ≤ 2 * (m * d) + d := by linarith
    exact_mod_cast h
  have hStrict (hOdd : m % 2 = 1) : 2 * (m * d) < 2 * n + d ∧ 2 * n < 2 * (m * d) + d := by
    have h : (2 * (m * d) : ℚ) < 2 * n + d := by linarith [(strict hOdd).1]
    have h' : (2 * n : ℚ) < 2 * (m * d) + d := by linarith [(strict hOdd).2]
    exact ⟨by exact_mod_cast h, by exact_mod_cast h'⟩
  have hQuotient : n / d * d + n % d = n := Nat.div_add_mod' n d
  have hRest : n % d < d := Nat.mod_lt n hd
  obtain rfl | rfl : m = n / d ∨ m = n / d + 1 := by
    have hLeast : n / d ≤ m := by
      by_contra hNot
      have hMul := Nat.mul_le_mul_right d (not_le.mp hNot)
      rw [Nat.succ_mul] at hMul
      omega
    have hGreatest : m ≤ n / d + 1 := by
      by_contra hNot
      have hMul := Nat.mul_le_mul_right d (not_le.mp hNot)
      rw [Nat.succ_mul, Nat.succ_mul] at hMul
      omega
    omega
  · rw [divideToEven, if_neg]
    omega
  · have hProduct : (n / d + 1) * d = n / d * d + d := Nat.succ_mul _ _
    rw [divideToEven, if_pos]
    omega

/-- The last place of a double near a fraction, by the powers of two around the fraction. -/
theorem lastPlace_eq {n d : ℕ} (hn : 0 < n) (hd : 0 < d) {place : ℤ} (least : -1074 ≤ place)
    (below : (n / d : ℚ) < 2 ^ (place + 53))
    (above : (2 : ℚ) ^ (place + 52) ≤ n / d ∨ place = -1074) : lastPlace n d = place := by
  have hd' : (0 : ℚ) < d := Nat.cast_pos.mpr hd
  have hMono {k l : ℤ} : (2 : ℚ) ^ k < 2 ^ l ↔ k < l := zpow_lt_zpow_iff_right₀ (by norm_num)
  have hLog {k : ℕ} (hk : 0 < k) : (2 : ℚ) ^ (k.log2 : ℤ) ≤ k ∧ (k : ℚ) < 2 ^ (k.log2 + 1 : ℤ) := by
    have hPow : (2 : ℚ) ^ (k.log2 + 1 : ℤ) = 2 ^ (k.log2 + 1) := by rw [← zpow_natCast]; rfl
    rw [hPow, zpow_natCast]
    exact ⟨by exact_mod_cast Nat.log2_self_le hk.ne', by exact_mod_cast Nat.lt_log2_self⟩
  have hLeast : (2 : ℚ) ^ ((n.log2 : ℤ) - d.log2 - 1) < n / d := by
    rw [lt_div_iff₀ hd']
    calc (2 : ℚ) ^ ((n.log2 : ℤ) - d.log2 - 1) * d
        < 2 ^ ((n.log2 : ℤ) - d.log2 - 1) * 2 ^ (d.log2 + 1 : ℤ) := by
          exact mul_lt_mul_of_pos_left (hLog hd).2 (by positivity)
      _ = 2 ^ (n.log2 : ℤ) := by
          rw [← zpow_add₀ two_ne_zero]
          congr 1
          omega
      _ ≤ n := (hLog hn).1
  have hGreatest : (n / d : ℚ) < 2 ^ ((n.log2 : ℤ) - d.log2 + 1) := by
    rw [div_lt_iff₀ hd']
    calc (n : ℚ) < 2 ^ (n.log2 + 1 : ℤ) := (hLog hn).2
      _ = 2 ^ ((n.log2 : ℤ) - d.log2 + 1) * 2 ^ (d.log2 : ℤ) := by
          rw [← zpow_add₀ two_ne_zero]
          congr 1
          omega
      _ ≤ 2 ^ ((n.log2 : ℤ) - d.log2 + 1) * d := by
          exact mul_le_mul_of_nonneg_left (hLog hd).1 (by positivity)
  have hSmall (guess : ℤ) : n * twoTo (-guess).toNat < d * twoTo guess.toNat * twoTo 52 ↔
      (n / d : ℚ) < 2 ^ (guess + 52) := by
    have hUnit : (0 : ℚ) < twoTo (-guess).toNat := Nat.cast_pos.mpr (twoTo_pos _)
    have hProduct : (twoTo guess.toNat * 2 ^ (52 : ℤ) * d : ℚ) =
        (d * twoTo guess.toNat * twoTo 52 : ℕ) := by
      rw [two_zpow 52]
      push_cast [twoTo]
      ring
    rw [zpow_add₀ two_ne_zero, two_zpow guess, div_lt_iff₀ hd', div_mul_eq_mul_div,
      div_mul_eq_mul_div, lt_div_iff₀ hUnit, hProduct, ← Nat.cast_mul, Nat.cast_lt]
  have hBounds := hMono.mp (hLeast.trans below)
  have hAbove {k : ℤ} (h : (n / d : ℚ) < 2 ^ k) : place + 52 < k ∨ place = -1074 :=
    above.imp_left fun hPower => hMono.mp (hPower.trans_lt h)
  simp only [lastPlace, decide_eq_true_eq, hSmall]
  split
  · rename_i hPower
    have hPlace := hAbove hPower
    omega
  · rename_i hPower
    have hPlace := hAbove hGreatest
    have hUpper := hMono.mp ((not_lt.mp hPower).trans_lt below)
    omega

/-- Counting the steps of a last place in a fraction. -/
theorem divideToEven_steps {n d m : ℕ} (hd : 0 < d) (place : ℤ)
    (lower : (m - 1 / 2) * 2 ^ place ≤ (n / d : ℚ)) (upper : (n / d : ℚ) ≤ (m + 1 / 2) * 2 ^ place)
    (strict : m % 2 = 1 → (m - 1 / 2) * 2 ^ place < (n / d : ℚ) ∧
      (n / d : ℚ) < (m + 1 / 2) * 2 ^ place) :
    divideToEven (n * twoTo (-place).toNat) (d * twoTo place.toNat) = m := by
  have hPower : (0 : ℚ) < 2 ^ place := by positivity
  have hSteps : ((n * twoTo (-place).toNat : ℕ) : ℚ) / (d * twoTo place.toNat : ℕ) =
      n / d / 2 ^ place := by
    rw [two_zpow, Nat.cast_mul, Nat.cast_mul, div_div_div_eq]
  apply divideToEven_eq (Nat.mul_pos hd (twoTo_pos _))
  · rwa [hSteps, le_div_iff₀ hPower]
  · rwa [hSteps, div_le_iff₀ hPower]
  · rwa [hSteps, lt_div_iff₀ hPower, div_lt_iff₀ hPower]

/-- The pattern of a fraction follows from its last place and its steps. -/
theorem nearestBits_eq_of_steps {n d m : ℕ} {place : ℤ} (hPlace : lastPlace n d = place)
    (hSteps : divideToEven (n * twoTo (-place).toNat) (d * twoTo place.toNat) = m)
    (below : (place + 1074).toNat * 2 ^ 52 + m < infinityBits) :
    nearestBits n d = (place + 1074).toNat * 2 ^ 52 + m := by
  have hBits : twoTo 52 = 2 ^ 52 := by decide
  simp only [nearestBits, hPlace, hSteps, hBits]
  exact Nat.min_eq_left below.le

section Nearest

variable {n d mantissa : ℕ} {exponent : ℤ}

/-- The ends of the interval of a double, in whole steps. -/
theorem RoundsTo.bounds {v : ℚ} (h : RoundsTo v mantissa exponent) :
    (mantissa - 1 / 2) * 2 ^ exponent ≤ v ∧ v ≤ (mantissa + 1 / 2) * 2 ^ exponent ∧
      (mantissa % 2 = 1 → (mantissa - 1 / 2) * 2 ^ exponent < v ∧
        v < (mantissa + 1 / 2) * 2 ^ exponent) := by
  have hGap : (gap mantissa exponent : ℚ) * 2 ^ exponent ≤ 2 * 2 ^ exponent := by
    have hCast : (gap mantissa exponent : ℚ) ≤ 2 := by exact_mod_cast gap_le mantissa exponent
    exact mul_le_mul_of_nonneg_right hCast (by positivity)
  obtain ⟨lower, upper, strict⟩ := h
  rw [quarter_zpow] at lower upper strict
  refine ⟨by linarith, by linarith, fun hOdd => ?_⟩
  obtain ⟨hLower, hUpper⟩ := strict hOdd
  exact ⟨by linarith, by linarith⟩

/-- Only positive fractions round to a positive double. -/
theorem RoundsTo.pos {v : ℚ} (h : RoundsTo v mantissa exponent) (hPos : 0 < mantissa) :
    0 < v := by
  have hOne : (1 : ℚ) ≤ mantissa := by exact_mod_cast hPos
  have hUnit : (0 : ℚ) < 2 ^ exponent := by positivity
  exact (mul_pos (by linarith) hUnit).trans_le h.bounds.1

theorem RoundsTo.lt_zpow {v : ℚ} (h : RoundsTo v mantissa exponent)
    (short : mantissa < 2 ^ 53) : v < 2 ^ (exponent + 53) := by
  have hPower := shift_zpow exponent 53
  have hUnit : (0 : ℚ) < 2 ^ exponent := by positivity
  have hShort : (mantissa + 1 : ℚ) * 2 ^ exponent ≤ 2 ^ 53 * 2 ^ exponent := by
    have hCast : (mantissa + 1 : ℚ) ≤ 2 ^ 53 := by exact_mod_cast short
    exact mul_le_mul_of_nonneg_right hCast hUnit.le
  push_cast at hPower
  linarith [h.bounds.2.1]

/-- Just below a power of two the steps are half as wide, and there are twice as many. -/
theorem nearestBits_eq_below_power (hn : 0 < n) (hd : 0 < d)
    (canonical : Canonical mantissa exponent) (h : RoundsTo (n / d) mantissa exponent)
    (hBelow : (n / d : ℚ) < 2 ^ (exponent + 52)) (hLeast : -1074 < exponent) :
    nearestBits n d = (exponent + 1074).toNat * 2 ^ 52 + mantissa := by
  have hUnit : (0 : ℚ) < 2 ^ exponent := by positivity
  have hHalf : (2 : ℚ) ^ (exponent - 1) = 2 ^ exponent / 2 := by
    rw [zpow_sub₀ two_ne_zero]
    norm_num
  have hPower := shift_zpow exponent 52
  push_cast at hPower
  have hFirst : mantissa = 2 ^ 52 := by
    by_contra hNot
    have hMore : (2 ^ 52 + 1 : ℚ) ≤ mantissa := by
      have hNormal := canonical.normal
      have hCast : 2 ^ 52 + 1 ≤ mantissa := by omega
      exact_mod_cast hCast
    have hSteps := mul_le_mul_of_nonneg_right hMore hUnit.le
    linarith [h.bounds.1]
  have hGap : gap mantissa exponent = 1 := if_pos ⟨by rw [hFirst]; decide, hLeast⟩
  have hLower : (2 ^ 53 - 1 / 2) * (2 ^ exponent / 2) ≤ (n / d : ℚ) := by
    have hEnd := h.lower
    rw [hGap, hFirst, quarter_zpow] at hEnd
    norm_num at hEnd
    linarith
  have hUpper : (n / d : ℚ) ≤ (2 ^ 53 + 1 / 2) * (2 ^ exponent / 2) := by linarith
  have hPlace : lastPlace n d = exponent - 1 := by
    apply lastPlace_eq hn hd (by omega)
    · rwa [show exponent - 1 + 53 = exponent + 52 by ring]
    · have hPower' := shift_zpow exponent 51
      push_cast at hPower'
      rw [show exponent - 1 + 52 = exponent + 51 by ring, hPower']
      exact Or.inl (by linarith)
  have hSteps : divideToEven (n * twoTo (-(exponent - 1)).toNat) (d * twoTo (exponent - 1).toNat) =
      2 ^ 53 := by
    apply divideToEven_steps hd
    · rw [hHalf]
      exact_mod_cast hLower
    · rw [hHalf]
      exact_mod_cast hUpper
    · intro hOdd
      norm_num at hOdd
  have hSame : (exponent - 1 + 1074).toNat * 2 ^ 52 + 2 ^ 53 =
      (exponent + 1074).toNat * 2 ^ 52 + mantissa := by
    have hNext : (exponent + 1074).toNat = (exponent - 1 + 1074).toNat + 1 := by omega
    rw [hFirst, hNext]
    ring
  rw [nearestBits_eq_of_steps hPlace hSteps (hSame.trans_lt canonical.below), hSame]

/-- Every number that rounds to a positive double is nearest to it. -/
theorem nearestBits_eq (hd : 0 < d) (canonical : Canonical mantissa exponent)
    (hPos : 0 < mantissa) (h : RoundsTo (n / d) mantissa exponent) :
    nearestBits n d = (exponent + 1074).toNat * 2 ^ 52 + mantissa := by
  have hn : 0 < n := by
    have hd' : (0 : ℚ) < d := Nat.cast_pos.mpr hd
    have hv := mul_pos (h.pos hPos) hd'
    rw [div_mul_cancel₀ _ hd'.ne'] at hv
    exact_mod_cast hv
  by_cases hPlace : (2 : ℚ) ^ (exponent + 52) ≤ n / d ∨ exponent = -1074
  · obtain ⟨lower, upper, strict⟩ := h.bounds
    exact nearestBits_eq_of_steps
      (lastPlace_eq hn hd canonical.least (h.lt_zpow canonical.short) hPlace)
      (divideToEven_steps hd exponent lower upper strict) canonical.below
  · obtain ⟨hBelow, hNot⟩ := not_or.mp hPlace
    have hLeast := canonical.least
    exact nearestBits_eq_below_power hn hd canonical h (not_le.mp hBelow) (by omega)

/-- All doubles lie far within these powers of ten. -/
theorem RoundsTo.lt_ten_zpow {v : ℚ} (h : RoundsTo v mantissa exponent)
    (canonical : Canonical mantissa exponent) : v < 10 ^ (311 : ℤ) := by
  have hPowers : twoTo 1025 ≤ tenTo 311 := by decide +kernel
  have hTop : exponent + 53 ≤ 1025 := by
    have below := canonical.below
    rw [infinityBits_eq] at below
    omega
  calc v < 2 ^ (exponent + 53) := h.lt_zpow canonical.short
    _ ≤ 2 ^ (1025 : ℤ) := zpow_le_zpow_right₀ (by norm_num) hTop
    _ ≤ 10 ^ (311 : ℤ) := two_zpow_le_ten_zpow hPowers

theorem RoundsTo.ten_zpow_lt {v : ℚ} (h : RoundsTo v mantissa exponent)
    (canonical : Canonical mantissa exponent) (hPos : 0 < mantissa) : 10 ^ (-400 : ℤ) < v := by
  have hPowers : twoTo 1076 ≤ tenTo 400 := by decide +kernel
  have hOne : (1 : ℚ) ≤ mantissa := by exact_mod_cast hPos
  have hUnit : (0 : ℚ) < 2 ^ exponent := by positivity
  calc (10 : ℚ) ^ (-400 : ℤ) ≤ 2 ^ (-1076 : ℤ) := by
        rw [zpow_neg, zpow_neg]
        exact inv_anti₀ (by positivity) (two_zpow_le_ten_zpow hPowers)
    _ ≤ 2 ^ (exponent - 2) := zpow_le_zpow_right₀ (by norm_num) (by linarith [canonical.least])
    _ = 1 / 4 * 2 ^ exponent := by
        rw [quarter_zpow]
        ring
    _ < (mantissa - 1 / 2) * 2 ^ exponent := mul_lt_mul_of_pos_right (by linarith) hUnit
    _ ≤ v := h.bounds.1

end Nearest

section Exact

variable {x : Float} {negative : Bool} {mantissa : ℕ} {exponent : ℤ}
  (hExact : exact x = .finite negative mantissa exponent) (hPos : 0 < mantissa)

include hExact hPos

/-- What rounds to a double, with its sign, has the double as the nearest one. -/
theorem nearest_eq {n d : ℕ} (hd : 0 < d) (h : RoundsTo (n / d) mantissa exponent) :
    nearest negative n d = x := by
  obtain ⟨canonical, hBits⟩ := canonical_of_exact hExact
  have hn : n ≠ 0 := by
    rintro rfl
    simpa using h.pos hPos
  have hPattern : (if negative then nearestBits n d + twoTo 63 else nearestBits n d) =
      x.toBits.toNat := by
    rw [hBits, nearestBits_eq hd canonical hPos h, twoTo_sixtyThree]
    cases negative <;> simp
  rw [nearest, if_neg hn, hPattern, UInt64.ofNat_toNat, Float.ofBits_toBits]

/-- Decimals that round to a double are not so far out that their digits are not looked at. -/
theorem ofDecimal_eq {digits : ℕ} {power : ℤ}
    (h : RoundsTo (digits * 10 ^ power) mantissa exponent) :
    ofDecimal negative digits power = x := by
  obtain ⟨canonical, -⟩ := canonical_of_exact hExact
  have hValue := h.pos hPos
  have hDigits : digits ≠ 0 := by
    rintro rfl
    simp at hValue
  have hOne : (1 : ℚ) ≤ digits := by exact_mod_cast Nat.pos_of_ne_zero hDigits
  have hLarge : ¬310 < power := by
    intro hFar
    have hPower : (10 : ℚ) ^ (311 : ℤ) ≤ 10 ^ power := zpow_le_zpow_right₀ (by norm_num) hFar
    have hProduct : (10 : ℚ) ^ power ≤ digits * 10 ^ power :=
      le_mul_of_one_le_left (by positivity) hOne
    linarith [h.lt_ten_zpow canonical]
  have hSmall : ¬power < -400 - (digits.log2 : ℤ) := by
    intro hFar
    have hLog : (digits : ℚ) ≤ 10 ^ (digits.log2 + 1 : ℤ) := by
      have hPow : (10 : ℚ) ^ (digits.log2 + 1 : ℤ) = 10 ^ (digits.log2 + 1) := by
        rw [← zpow_natCast]
        rfl
      rw [hPow]
      exact_mod_cast (Nat.lt_log2_self.trans_le (Nat.pow_le_pow_left (by decide) _)).le
    have hProduct : (digits * 10 ^ power : ℚ) ≤ 10 ^ (-400 : ℤ) := by
      calc (digits * 10 ^ power : ℚ) ≤ 10 ^ (digits.log2 + 1 : ℤ) * 10 ^ power :=
            mul_le_mul_of_nonneg_right hLog (by positivity)
        _ = 10 ^ (digits.log2 + 1 + power : ℤ) := (zpow_add₀ (by norm_num) _ _).symm
        _ ≤ 10 ^ (-400 : ℤ) := zpow_le_zpow_right₀ (by norm_num) (by omega)
    linarith [h.ten_zpow_lt canonical hPos]
  rw [ofDecimal, if_neg hDigits, if_neg hLarge, if_neg hSmall]
  apply nearest_eq hExact hPos (tenTo_pos _)
  rw [ten_zpow] at h
  rwa [Nat.cast_mul, mul_div_assoc]

end Exact

end RowFormula.Number
