import Mathlib
import RowFormula.Number.Nearest

/-! The order of doubles. Ordering doubles by their signed bit patterns is ordering them as numbers:
for patterns without a sign, a greater exponent or, under the same exponent, a greater mantissa is a
greater pattern. Only NaN has no place, and no rounding makes one. -/
namespace RowFormula.Number

open Float.Model (UnpackedFloat)
open Float.Model.Format (binary64)
open Float.Model.UnpackedFloat

theorem twoTo_sixtyThree : twoTo 63 = 2 ^ 63 := by decide

theorem infinityBits_eq : infinityBits = 2047 * 2 ^ 52 := by decide

section Parts

theorem toNat_unpackExponent (bits : BitVec 64) :
    (@unpackExponent binary64 bits).toNat = bits.toNat / 2 ^ 52 % 2048 := by
  simp [unpackExponent, Nat.shiftRight_eq_div_pow]

theorem toNat_unpackMantissa (bits : BitVec 64) :
    (@unpackMantissa binary64 bits).toNat = bits.toNat % 2 ^ 52 := by
  simp [unpackMantissa]

/-- The sign of a pattern. -/
def signOf (bits : Nat) : Sign := if 2 ^ 63 ≤ bits then .negative else .positive

theorem ofBitVec_unpackSign (bits : BitVec 64) :
    Sign.ofBitVec (@unpackSign binary64 bits) = signOf bits.toNat := by
  have hLt := bits.isLt
  have hBit : @unpackSign binary64 bits = 0#1 ↔ ¬2 ^ 63 ≤ bits.toNat := by
    simp only [unpackSign, ← BitVec.toNat_inj, BitVec.toNat_cast, BitVec.extractLsb_toNat,
      Nat.shiftRight_eq_div_pow, BitVec.toNat_ofNat]
    omega
  simp only [Sign.ofBitVec, hBit, signOf, ite_not]

theorem toNat_implicit_append (mantissa : BitVec 52) :
    (1#1 ++ mantissa).toNat = 2 ^ 52 + mantissa.toNat := by
  rw [BitVec.toNat_append, ← Nat.shiftLeft_add_eq_or_of_lt mantissa.isLt]
  rfl

end Parts

/-- What a pattern stands for, by its magnitude. A finite magnitude counts the steps of the mantissa
from zero, as many under each exponent as under the least. -/
inductive Unpacks (bits : Nat) : UnpackedFloat → Prop where
  | notANumber (above : infinityBits < bits % 2 ^ 63) : Unpacks bits .notANumber
  | infinity (top : bits % 2 ^ 63 = infinityBits) : Unpacks bits (.infinity (signOf bits))
  | zero (bottom : bits % 2 ^ 63 = 0) : Unpacks bits (.zero (signOf bits))
  | finite {mantissa : Nat} {exponent : Int} (pos : 0 < mantissa)
      (steps : ((bits % 2 ^ 63 : Nat) : Int) = (exponent + 1074) * 2 ^ 52 + mantissa)
      (below : bits % 2 ^ 63 < infinityBits) (short : mantissa < 2 ^ 53)
      (least : -1074 ≤ exponent) (normal : 2 ^ 52 ≤ mantissa ∨ exponent = -1074) :
      Unpacks bits (.finite (signOf bits) mantissa exponent pos)

/-- The pattern of a double is unpacked into its number. -/
theorem unpacks_unpack (bits : BitVec 64) : Unpacks bits.toNat (unpack binary64 bits) := by
  have hMax : @unpackExponent binary64 bits = -1#11 ↔
      bits.toNat / 2 ^ 52 % 2048 = 2047 := by
    rw [← BitVec.toNat_inj, toNat_unpackExponent]
    rfl
  have hMin : @unpackExponent binary64 bits = 0#11 ↔ bits.toNat / 2 ^ 52 % 2048 = 0 := by
    rw [← BitVec.toNat_inj, toNat_unpackExponent]
    rfl
  have hZero : @unpackMantissa binary64 bits = 0#52 ↔ bits.toNat % 2 ^ 52 = 0 := by
    rw [← BitVec.toNat_inj, toNat_unpackMantissa]
    rfl
  have hImplicit := (toNat_implicit_append (@unpackMantissa binary64 bits)).trans
    (congrArg _ (toNat_unpackMantissa bits))
  have hBias : (binary64.exponentBias : Int) + binary64.mantissaBitsWithoutImplicit = 1075 := rfl
  have hTop := infinityBits_eq
  simp only [unpack, hMax, hMin, hZero, hImplicit, hBias, toNat_unpackExponent,
    toNat_unpackMantissa, ofBitVec_unpackSign]
  split
  · split
    · exact .infinity (by omega)
    · exact .notANumber (by omega)
  · split
    · split
      · exact .zero (by omega)
      · exact .finite _ (by omega) (by omega) (by omega) (by omega) (by omega)
    · exact .finite _ (by omega) (by omega) (by omega) (by omega) (by omega)

/-- The signed magnitude of a number, none for NaN. -/
def placeOf : UnpackedFloat → Option Int
  | .notANumber => none
  | .infinity sign => some (sign.apply infinityBits)
  | .zero _ => some 0
  | .finite sign mantissa exponent _ => some (sign.apply ((exponent + 1074) * 2 ^ 52 + mantissa))

theorem place?_of_unpacks {x : Float} {u : UnpackedFloat} (unpacks : Unpacks x.toBits.toNat u) :
    place? x = placeOf u := by
  simp only [place?, twoTo_sixtyThree]
  cases unpacks with
  | notANumber above => rw [if_pos above, placeOf]
  | infinity top =>
      rw [top, if_neg (Nat.lt_irrefl _), placeOf, signOf]
      split <;> rfl
  | zero bottom =>
      rw [bottom, if_neg (Nat.not_lt_zero _)]
      split <;> rfl
  | finite pos steps below =>
      simp only [if_neg (Nat.lt_asymm below), steps, placeOf, signOf]
      split <;> rfl

/-- The place of a double is that of its unpacked number. -/
theorem place?_eq (x : Float) : place? x = placeOf x.toModel.unpack :=
  place?_of_unpacks (unpacks_unpack x.toBits.toBitVec)

section Comparison

/-- Greater exponents come first, then greater mantissas. -/
theorem compare_steps {m n : Nat} {e f : Int} (hm : m < 2 ^ 53) (hn : n < 2 ^ 53)
    (he : -1074 ≤ e) (hf : -1074 ≤ f) (hm' : 2 ^ 52 ≤ m ∨ e = -1074)
    (hn' : 2 ^ 52 ≤ n ∨ f = -1074) :
    compare ((e + 1074) * 2 ^ 52 + m) ((f + 1074) * 2 ^ 52 + n) =
      (compare e f).then (compare m n) := by
  rcases Int.lt_trichotomy e f with hLt | rfl | hGt
  · rw [Int.compare_eq_lt.mpr hLt, Int.compare_eq_lt.mpr (by omega)]
    rfl
  · rw [Int.compare_eq_eq.mpr (Eq.refl e), Ordering.eq_then]
    rcases Nat.lt_trichotomy m n with hLt | rfl | hGt
    · rw [Nat.compare_eq_lt.mpr hLt, Int.compare_eq_lt.mpr (by omega)]
    · rw [Nat.compare_eq_eq.mpr rfl, Int.compare_eq_eq.mpr rfl]
    · rw [Nat.compare_eq_gt.mpr hGt, Int.compare_eq_gt.mpr (by omega)]
  · rw [Int.compare_eq_gt.mpr hGt, Int.compare_eq_gt.mpr (by omega)]
    rfl

variable {p q : Int}

theorem compare_neg_neg (p q : Int) : compare (-p) (-q) = compare q p := by
  rcases Int.lt_trichotomy p q with hLt | rfl | hGt
  · rw [Int.compare_eq_gt.mpr hLt, Int.compare_eq_gt.mpr (by omega)]
  · rw [Int.compare_eq_eq.mpr rfl, Int.compare_eq_eq.mpr rfl]
  · rw [Int.compare_eq_lt.mpr hGt, Int.compare_eq_lt.mpr (by omega)]

/-- Negative numbers come first, in the other direction. -/
theorem compare_apply (s t : Sign) (hp : 0 < p) (hq : 0 < q) :
    compare (s.apply p) (t.apply q) =
      match s, t with
      | .negative, .negative => (compare p q).swap
      | .negative, .positive => .lt
      | .positive, .negative => .gt
      | .positive, .positive => compare p q := by
  cases s <;> cases t <;> dsimp only [Sign.apply]
  · rw [compare_neg_neg, Int.compare_swap]
  · exact Int.compare_eq_lt.mpr (by omega)
  · exact Int.compare_eq_gt.mpr (by omega)

theorem compare_apply_zero (s : Sign) (hp : 0 < p) :
    compare (s.apply p) 0 = match s with | .negative => .lt | .positive => .gt := by
  cases s <;> dsimp only [Sign.apply]
  · exact Int.compare_eq_lt.mpr (by omega)
  · exact Int.compare_eq_gt.mpr hp

theorem compare_zero_apply (s : Sign) (hp : 0 < p) :
    compare 0 (s.apply p) = match s with | .negative => .gt | .positive => .lt := by
  rw [← Int.compare_swap, compare_apply_zero s hp]
  cases s <;> rfl

/-- Numbers are ordered as their places are. -/
theorem compare_of_unpacks {a b : Nat} {u v : UnpackedFloat} (hu : Unpacks a u)
    (hv : Unpacks b v) :
    u.compare v =
      match placeOf u, placeOf v with
      | some p, some q => some (compare p q)
      | _, _ => none := by
  have hTop := infinityBits_eq
  cases hu with
  | notANumber above => cases v <;> rfl
  | infinity top =>
      cases hv with
      | notANumber above => cases signOf a <;> rfl
      | infinity top' =>
          dsimp only [placeOf]
          rw [compare_apply _ _ (by omega) (by omega), Int.compare_eq_eq.mpr rfl]
          cases signOf a <;> cases signOf b <;> rfl
      | zero bottom =>
          dsimp only [placeOf]
          rw [compare_apply_zero _ (by omega)]
          cases signOf a <;> rfl
      | finite pos steps below =>
          dsimp only [placeOf]
          rw [compare_apply _ _ (by omega) (by omega), Int.compare_eq_gt.mpr (by omega)]
          cases signOf a <;> cases signOf b <;> rfl
  | zero bottom =>
      cases hv with
      | notANumber above => rfl
      | infinity top =>
          dsimp only [placeOf]
          rw [compare_zero_apply _ (by omega)]
          cases signOf b <;> rfl
      | zero bottom' => rfl
      | finite pos steps below =>
          dsimp only [placeOf]
          rw [compare_zero_apply _ (by omega)]
          cases signOf b <;> rfl
  | finite pos steps below short least normal =>
      cases hv with
      | notANumber above => cases signOf a <;> rfl
      | infinity top =>
          dsimp only [placeOf]
          rw [compare_apply _ _ (by omega) (by omega), Int.compare_eq_lt.mpr (by omega)]
          cases signOf a <;> cases signOf b <;> rfl
      | zero bottom =>
          dsimp only [placeOf]
          rw [compare_apply_zero _ (by omega)]
          cases signOf a <;> rfl
      | finite pos' steps' below' short' least' normal' =>
          dsimp only [placeOf]
          rw [compare_apply _ _ (by omega) (by omega),
            compare_steps short short' least least' normal normal']
          cases signOf a <;> cases signOf b <;> rfl

/-- The order by places is the order of numbers. -/
theorem order?_eq (x y : Float) : order? x y = x.toModel.compare y.toModel := by
  rw [order?, place?_eq, place?_eq]
  exact (compare_of_unpacks (unpacks_unpack _) (unpacks_unpack _)).symm

/-- The order of the model is that of the doubles. -/
theorem lt_iff_order? (x y : Float) : x < y ↔ order? x y = some .lt := by
  rw [order?_eq]
  exact decide_eq_true_iff.trans beq_iff_eq

/-- The equality of the model is that of the doubles. -/
theorem beq_iff_order? (x y : Float) : (x == y) = true ↔ order? x y = some .eq := by
  rw [order?_eq]
  exact (beq_iff_eq : (x.toModel.compare y.toModel == some .eq) = true ↔ _)

/-- At most is less or equal. -/
theorem le_iff_order? (x y : Float) : x ≤ y ↔ order? x y = some .lt ∨ order? x y = some .eq := by
  rw [order?_eq]
  refine decide_eq_true_iff.trans ?_
  change Option.any Ordering.isLE (x.toModel.compare y.toModel) = true ↔ _
  cases x.toModel.compare y.toModel with
  | none => simp
  | some outcome => cases outcome <;> simp

end Comparison

/-- Exactly NaN has no place. -/
theorem place?_eq_none_iff (x : Float) : place? x = none ↔ isNaN x = true := by
  have hTop := infinityBits_eq
  have hBits : twoTo 52 = 2 ^ 52 := by decide
  simp only [place?, isNaN, exact, hBits, twoTo_sixtyThree, decide_eq_true_eq]
  split
  · rename_i hAbove
    rw [if_pos (by omega), if_neg (by omega)]
    exact iff_of_true rfl rfl
  · rename_i hBelow
    refine iff_of_false (by split <;> exact nofun) ?_
    split
    · rw [if_pos (by omega)]
      exact nofun
    · split <;> exact nofun

/-- Numbers that are not NaN are ordered. -/
theorem order?_eq_none_iff (x y : Float) :
    order? x y = none ↔ isNaN x = true ∨ isNaN y = true := by
  rw [← place?_eq_none_iff, ← place?_eq_none_iff, order?]
  cases place? x <;> cases place? y <;> simp

section Packing

theorem unpack_packComponents_ne {sign : Sign} {exponent : BitVec 11} {mantissa : BitVec 52}
    (h : exponent = -1#11 → mantissa = 0#52) :
    unpack binary64 (packComponents binary64 sign exponent mantissa) ≠ .notANumber := by
  simp only [unpack, unpackExponent_packComponents, unpackMantissa_packComponents]
  by_cases hMax : exponent = -1#11
  · rw [if_pos hMax, if_pos (h hMax)]
    exact nofun
  · rw [if_neg hMax]
    split
    · split <;> exact nofun
    · exact nofun

/-- What is not NaN is not packed as NaN. -/
theorem unpack_pack_ne {u : UnpackedFloat} (h : u ≠ .notANumber) :
    unpack binary64 (pack binary64 u) ≠ .notANumber := by
  cases u with
  | notANumber => exact absurd rfl h
  | infinity sign => exact unpack_packComponents_ne fun _ => rfl
  | zero sign => exact unpack_packComponents_ne fun _ => rfl
  | finite sign mantissa exponent pos =>
      simp only [pack]
      split
      · exact unpack_packComponents_ne fun _ => rfl
      · rename_i hFits
        split
        · apply unpack_packComponents_ne
          intro hMax
          have hMax := congrArg BitVec.toNat hMax
          simp only [BitVec.toNat_ofNat, BitVec.reduceNeg] at hMax
          omega
        · exact unpack_packComponents_ne fun hMax => absurd hMax (by decide)

end Packing

theorem placeOf_eq_none_iff (u : UnpackedFloat) : placeOf u = none ↔ u = .notANumber := by
  cases u <;> simp [placeOf]

/-- A pattern up to that of infinity, whatever its sign, makes no NaN. -/
theorem isNaN_ofBits {bits : Nat} (h : bits % 2 ^ 63 ≤ infinityBits) :
    isNaN (Float.ofBits (UInt64.ofNat bits)) = false := by
  have hPattern : unpack binary64 (BitVec.ofNat 64 bits) ≠ .notANumber := by
    intro hNaN
    have hUnpacks := unpacks_unpack (BitVec.ofNat 64 bits)
    rw [hNaN, BitVec.toNat_ofNat] at hUnpacks
    cases hUnpacks with
    | notANumber above => omega
  rw [Bool.eq_false_iff, ne_eq, ← place?_eq_none_iff, place?_eq, placeOf_eq_none_iff]
  exact unpack_pack_ne hPattern

/-- Rounding leads to a number or to infinity. -/
theorem isNaN_nearest (negative : Bool) (n d : Nat) : isNaN (nearest negative n d) = false := by
  have hTop := infinityBits_eq
  have hMagnitude : (if n = 0 then 0 else nearestBits n d) ≤ infinityBits := by
    split
    · exact Nat.zero_le _
    · exact Nat.min_le_right _ _
  apply isNaN_ofBits
  rw [twoTo_sixtyThree]
  split <;> omega

/-- The double of an integer is not NaN. -/
theorem isNaN_ofInt (n : Int) : isNaN (ofInt n) = false := isNaN_nearest _ _ _

/-- The double of a decimal is not NaN. -/
theorem isNaN_ofDecimal (negative : Bool) (digits : Nat) (exponent : Int) :
    isNaN (ofDecimal negative digits exponent) = false := by
  unfold ofDecimal
  repeat' split
  all_goals exact isNaN_nearest _ _ _

end RowFormula.Number
