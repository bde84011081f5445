import RowFormula.Number.Shortest
import RowFormula.Proofs.Number.Rounding

/-! The shortest digits of a double. What is found on a grid of decimals rounds to the double, and
on a grid that is fine enough something is found. -/
namespace RowFormula.Number

/-- The number that a decimal stands for. -/
def Decimal.value (d : Decimal) : ℚ := d.digits * 10 ^ d.exponent

/-! The first digit. -/

/-- A number is below the power of ten that its digits reach to. -/
theorem lt_pow_digitCount (n : ℕ) : n < 10 ^ digitCount n :=
  (Nat.length_toDigits_le_iff (by decide) Nat.length_toDigits_pos).mp le_rfl

theorem pow_le_of_lt_digitCount {n k : ℕ} (hn : 0 < n) (hk : k < digitCount n) : 10 ^ k ≤ n := by
  by_contra hNot
  cases k with
  | zero => exact hNot hn
  | succ k =>
      have hFew : digitCount n ≤ k + 1 :=
        (Nat.length_toDigits_le_iff (by decide) k.succ_pos).mpr (not_le.mp hNot)
      omega

theorem digitCount_pos (n : ℕ) : 0 < digitCount n := Nat.length_toDigits_pos

/-- The power of ten that the first digit of a fraction stands for is not above the fraction. -/
theorem ten_zpow_leadingPlace_le {n d : ℕ} (hn : 0 < n) (hd : 0 < d) :
    (10 : ℚ) ^ (leadingPlace n d - 1) ≤ n / d := by
  have hd' : (0 : ℚ) < d := Nat.cast_pos.mpr hd
  unfold leadingPlace
  split
  · rename_i hLarge
    have hCount := digitCount_pos (n / d)
    have hQuotient : 10 ^ (digitCount (n / d) - 1) * d ≤ n :=
      (Nat.le_div_iff_mul_le hd).mp
        (pow_le_of_lt_digitCount (Nat.div_pos hLarge hd) (Nat.sub_lt hCount one_pos))
    rw [show (digitCount (n / d) : ℤ) - 1 = (digitCount (n / d) - 1 : ℕ) by omega, zpow_natCast,
      le_div_iff₀ hd']
    exact_mod_cast hQuotient
  · have hBelow {k : ℕ} (h : d ≤ 10 ^ k * n) : (10 : ℚ) ^ (-(k : ℤ)) ≤ n / d := by
      rw [zpow_neg, zpow_natCast, le_div_iff₀ hd', inv_mul_le_iff₀ (by positivity)]
      exact_mod_cast h
    have hCount := digitCount_pos (d / n)
    dsimp only
    split
    · rename_i hPower
      rw [show 1 - ((digitCount (d / n) - 1 : ℕ) : ℤ) - 1 = -(digitCount (d / n) - 1 : ℕ) by ring]
      exact hBelow (hPower.trans (mul_comm _ _)).le
    · rw [show -((digitCount (d / n) - 1 : ℕ) : ℤ) - 1 = -(digitCount (d / n) : ℤ) by omega]
      exact hBelow ((Nat.div_lt_iff_lt_mul hn).mp (lt_pow_digitCount (d / n))).le

/-! The grids. -/

section Grid

variable (mantissa : ℕ) (exponent grid : ℤ)

/-- A quarter of a step of the mantissa, where the points of a grid are counted by natural
numbers too. -/
def quarterUnits : ℕ := twoTo (exponent - 2).toNat * tenTo (-grid).toNat

/-- The distance of two points of a grid in the same units. -/
def pointUnits : ℕ := twoTo (2 - exponent).toNat * tenTo grid.toNat

/-- Whether a point of a grid lies in the interval of a double. -/
def inInterval (c : ℕ) : Bool :=
  let least := (4 * mantissa - gap mantissa exponent) * quarterUnits exponent grid
  let greatest := (4 * mantissa + 2) * quarterUnits exponent grid
  let point := c * pointUnits exponent grid
  if mantissa % 2 = 0 then decide (least ≤ point ∧ point ≤ greatest)
  else decide (least < point ∧ point < greatest)

/-- The last point of a grid that is not above the double. -/
def lowPoint : ℕ :=
  4 * mantissa * quarterUnits exponent grid / pointUnits exponent grid

/-- Of two points on the grid the one in the interval is taken, and of two in it the nearer one. -/
theorem onGrid?_eq (tie : Tie) :
    onGrid? tie mantissa exponent grid =
      let value := 4 * mantissa * quarterUnits exponent grid
      let step := pointUnits exponent grid
      let low := lowPoint mantissa exponent grid
      match decide (low ≠ 0) && inInterval mantissa exponent grid low,
        inInterval mantissa exponent grid (low + 1) with
      | false, false => none
      | true, false => some low
      | false, true => some (low + 1)
      | true, true =>
        if value - low * step < (low + 1) * step - value then some low
        else if (low + 1) * step - value < value - low * step then some (low + 1)
        else match tie with
          | .up => some (low + 1)
          | .even => some (if low % 2 = 0 then low else low + 1) := rfl

/-- What counts as one unit. -/
def unitCount : ℕ := twoTo (2 - exponent).toNat * tenTo (-grid).toNat

theorem quarterUnits_eq :
    (quarterUnits exponent grid : ℚ) = 2 ^ (exponent - 2) * unitCount exponent grid := by
  have hUnit : (twoTo (2 - exponent).toNat : ℚ) ≠ 0 := Nat.cast_ne_zero.mpr (twoTo_pos _).ne'
  rw [two_zpow, neg_sub, quarterUnits, unitCount]
  push_cast
  field_simp

theorem pointUnits_eq :
    (pointUnits exponent grid : ℚ) = 10 ^ grid * unitCount exponent grid := by
  have hUnit : (tenTo (-grid).toNat : ℚ) ≠ 0 := Nat.cast_ne_zero.mpr (tenTo_pos _).ne'
  rw [ten_zpow, pointUnits, unitCount]
  push_cast
  field_simp

theorem unitCount_pos : (0 : ℚ) < unitCount exponent grid :=
  Nat.cast_pos.mpr (Nat.mul_pos (twoTo_pos _) (tenTo_pos _))

/-- A point lies in the interval when it rounds to the double. -/
theorem inInterval_iff {mantissa : ℕ} (hPos : 0 < mantissa) (c : ℕ) :
    inInterval mantissa exponent grid c = true ↔ RoundsTo (c * 10 ^ grid) mantissa exponent := by
  have hGap := gap_le mantissa exponent
  have hScale := unitCount_pos exponent grid
  have hLe (q p : ℕ) : q * quarterUnits exponent grid ≤ p * pointUnits exponent grid ↔
      (q * 2 ^ (exponent - 2) : ℚ) ≤ p * 10 ^ grid := by
    rw [← Nat.cast_le (α := ℚ)]
    push_cast
    rw [quarterUnits_eq, pointUnits_eq, ← mul_assoc, ← mul_assoc, mul_le_mul_iff_left₀ hScale]
  have hGe (q p : ℕ) : p * pointUnits exponent grid ≤ q * quarterUnits exponent grid ↔
      (p * 10 ^ grid : ℚ) ≤ q * 2 ^ (exponent - 2) := by
    rw [← Nat.cast_le (α := ℚ)]
    push_cast
    rw [quarterUnits_eq, pointUnits_eq, ← mul_assoc, ← mul_assoc, mul_le_mul_iff_left₀ hScale]
  have hLeast : ((4 * mantissa - gap mantissa exponent : ℕ) : ℚ) =
      4 * mantissa - gap mantissa exponent := by
    rw [Nat.cast_sub (by omega)]
    push_cast
    rfl
  have hGreatest : ((4 * mantissa + 2 : ℕ) : ℚ) = 4 * mantissa + 2 := by push_cast; rfl
  unfold inInterval
  split
  · rename_i hEven
    simp only [decide_eq_true_eq, hLe, hGe, hLeast, hGreatest]
    exact ⟨fun h => ⟨h.1, h.2, fun hOdd => by omega⟩, fun h => ⟨h.lower, h.upper⟩⟩
  · rename_i hOdd
    simp only [decide_eq_true_eq, ← not_le, hLe, hGe, hLeast, hGreatest]
    simp only [not_le]
    exact ⟨fun h => ⟨h.1.le, h.2.le, fun _ => h⟩, fun h => h.strict (by omega)⟩

/-- What is found on a grid rounds to the double. -/
theorem roundsTo_of_onGrid? {mantissa : ℕ} (hPos : 0 < mantissa) {tie : Tie} {digits : ℕ}
    (h : onGrid? tie mantissa exponent grid = some digits) :
    RoundsTo (digits * 10 ^ grid) mantissa exponent := by
  rw [← inInterval_iff exponent grid hPos]
  rw [onGrid?_eq] at h
  dsimp only at h
  split at h
  · cases h
  · rename_i hLow _
    cases h
    exact (Bool.and_eq_true_iff.mp hLow).2
  · rename_i hHigh
    cases h
    exact hHigh
  · rename_i hLow hHigh
    have hLow := (Bool.and_eq_true_iff.mp hLow).2
    split at h
    · cases h
      exact hLow
    · split at h
      · cases h
        exact hHigh
      · cases tie with
        | up =>
            cases h
            exact hHigh
        | even =>
            cases h
            split
            · exact hLow
            · exact hHigh

/-- Nothing is found only where neither the last point below the double nor the next one lies in the
interval. -/
theorem not_inInterval_of_onGrid? {tie : Tie} (h : onGrid? tie mantissa exponent grid = none)
    (hLow : lowPoint mantissa exponent grid ≠ 0) :
    inInterval mantissa exponent grid (lowPoint mantissa exponent grid) = false ∧
      inInterval mantissa exponent grid (lowPoint mantissa exponent grid + 1) = false := by
  rw [onGrid?_eq] at h
  dsimp only at h
  split at h
  · rename_i hLow' hHigh
    exact ⟨by simpa [hLow] using hLow', hHigh⟩
  · cases h
  · cases h
  · split at h
    · cases h
    · split at h
      · cases h
      · cases tie <;> cases h

/-- The double lies between two points of the grid. -/
theorem lowPoint_bounds :
    (lowPoint mantissa exponent grid * 10 ^ grid : ℚ) ≤ 4 * mantissa * 2 ^ (exponent - 2) ∧
      (4 * mantissa * 2 ^ (exponent - 2) : ℚ) <
        (lowPoint mantissa exponent grid + 1) * 10 ^ grid := by
  have hScale := unitCount_pos exponent grid
  have hUnits : 0 < pointUnits exponent grid := Nat.mul_pos (twoTo_pos _) (tenTo_pos _)
  constructor
  · have hNat : lowPoint mantissa exponent grid * pointUnits exponent grid ≤
        4 * mantissa * quarterUnits exponent grid := Nat.div_mul_le_self _ _
    rw [← Nat.cast_le (α := ℚ)] at hNat
    push_cast at hNat
    rw [quarterUnits_eq, pointUnits_eq, ← mul_assoc, ← mul_assoc] at hNat
    exact le_of_mul_le_mul_right hNat hScale
  · have hNat : 4 * mantissa * quarterUnits exponent grid <
        (lowPoint mantissa exponent grid + 1) * pointUnits exponent grid :=
      (Nat.div_lt_iff_lt_mul hUnits).mp (Nat.lt_succ_self _)
    rw [← Nat.cast_lt (α := ℚ)] at hNat
    push_cast at hNat
    rw [quarterUnits_eq, pointUnits_eq, ← mul_assoc, ← mul_assoc] at hNat
    exact lt_of_mul_lt_mul_right hNat hScale.le

/-- A grid of sixteen places behind the first one is finer than the interval. -/
theorem grid_lt_interval {mantissa : ℕ} {exponent grid : ℤ} (short : mantissa < 2 ^ 53)
    (fine : (10 : ℚ) ^ grid * 10 ^ 16 ≤ 4 * mantissa * 2 ^ (exponent - 2)) :
    (10 : ℚ) ^ grid < (gap mantissa exponent + 2) * 2 ^ (exponent - 2) := by
  have hUnit : (0 : ℚ) < 2 ^ (exponent - 2) := by positivity
  unfold gap
  split
  · rename_i hFirst
    rw [hFirst.1, show twoTo 52 = 2 ^ 52 by decide] at fine
    push_cast at fine ⊢
    linarith
  · have hShort : (mantissa : ℚ) * 2 ^ (exponent - 2) ≤ 2 ^ 53 * 2 ^ (exponent - 2) := by
      have hCast : (mantissa : ℚ) ≤ 2 ^ 53 := by exact_mod_cast short.le
      exact mul_le_mul_of_nonneg_right hCast hUnit.le
    push_cast
    linarith

/-- On such a grid something is found. -/
theorem exists_onGrid? {mantissa : ℕ} (hPos : 0 < mantissa) (short : mantissa < 2 ^ 53)
    (fine : (10 : ℚ) ^ grid * 10 ^ 16 ≤ 4 * mantissa * 2 ^ (exponent - 2)) (tie : Tie) :
    ∃ digits, onGrid? tie mantissa exponent grid = some digits := by
  have hUnit : (0 : ℚ) < 2 ^ (exponent - 2) := by positivity
  have hGrid : (0 : ℚ) < 10 ^ grid := by positivity
  have hFine := grid_lt_interval short fine
  obtain ⟨hBelow, hAbove⟩ := lowPoint_bounds mantissa exponent grid
  rw [← Option.ne_none_iff_exists']
  intro hNone
  have hSome : lowPoint mantissa exponent grid ≠ 0 := by
    intro hZero
    rw [hZero] at hAbove
    push_cast at hAbove
    linarith
  have hOutside := not_inInterval_of_onGrid? mantissa exponent grid hNone hSome
  simp only [Bool.eq_false_iff, ne_eq, inInterval_iff exponent grid hPos] at hOutside
  push_cast at hOutside
  -- if the point below the double is too low, the next one cannot be too high
  rcases lt_or_ge ((4 * mantissa - gap mantissa exponent) * 2 ^ (exponent - 2) : ℚ)
    (lowPoint mantissa exponent grid * 10 ^ grid) with hLow | hLow
  · exact hOutside.1 (.of_lt hLow (by linarith))
  · have hGap : (0 : ℚ) < gap mantissa exponent * 2 ^ (exponent - 2) :=
      mul_pos (Nat.cast_pos.mpr (gap_pos mantissa exponent)) hUnit
    exact hOutside.2 (.of_lt (by linarith) (by linarith))

end Grid

/-- Zeros at the end of the digits count for nothing. -/
theorem value_stripZeros (fuel : ℕ) (d : Decimal) : (stripZeros fuel d).value = d.value := by
  induction fuel generalizing d with
  | zero => rfl
  | succ fuel ih =>
      rw [stripZeros]
      split
      · rename_i hZero
        have hDigits : (d.digits : ℚ) = (d.digits / 10 : ℕ) * 10 := by
          exact_mod_cast (Nat.div_mul_cancel (Nat.dvd_of_mod_eq_zero hZero.2)).symm
        rw [ih, Decimal.value, Decimal.value, hDigits, zpow_add_one₀ (by norm_num)]
        ring
      · rfl

/-- The shortest digits of a positive double stand for a number that rounds to it. -/
theorem roundsTo_shortest {mantissa : ℕ} {exponent : ℤ} (hPos : 0 < mantissa)
    (short : mantissa < 2 ^ 53) (tie : Tie) :
    RoundsTo (shortest tie mantissa exponent).value mantissa exponent := by
  have hTop := ten_zpow_leadingPlace_le (Nat.mul_pos hPos (twoTo_pos exponent.toNat))
    (twoTo_pos (-exponent).toNat)
  unfold shortest
  dsimp only
  generalize leadingPlace (mantissa * twoTo exponent.toNat) (twoTo (-exponent).toNat) = top
    at hTop ⊢
  split
  · rename_i d hFound
    obtain ⟨n, -, hGrid⟩ := List.exists_of_findSome?_eq_some hFound
    obtain ⟨digits, hDigits, rfl⟩ := Option.map_eq_some_iff.mp hGrid
    rw [value_stripZeros]
    exact roundsTo_of_onGrid? exponent _ hPos hDigits
  · rename_i hNone
    have hValue : ((mantissa * twoTo exponent.toNat : ℕ) / twoTo (-exponent).toNat : ℚ) =
        4 * mantissa * 2 ^ (exponent - 2) := by
      rw [Nat.cast_mul, mul_div_assoc, ← two_zpow, quarter_zpow]
      ring
    have hFine : (10 : ℚ) ^ (top - ((16 : ℕ) + 1)) * 10 ^ 16 ≤
        4 * mantissa * 2 ^ (exponent - 2) := by
      rw [← zpow_natCast, ← zpow_add₀ (by norm_num), ← hValue]
      convert hTop using 2
      omega
    obtain ⟨digits, hDigits⟩ := exists_onGrid? exponent _ hPos short hFine tie
    have hLast := List.findSome?_eq_none_iff.mp hNone 16 (by decide)
    rw [hDigits] at hLast
    cases hLast

end RowFormula.Number
