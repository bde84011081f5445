import RowFormula.Proofs.Number.Rounding

/-! The sign of zero. Arithmetic with one zero in place of the other gives the same result, which
may be the other zero. The sign matters only for a divisor. -/
namespace RowFormula.Number

open Float.Model (UnpackedFloat)
open Float.Model.Format (binary64)
open Float.Model.UnpackedFloat

/-- The same number, where the sign of zero does not count. -/
def Same (x y : Float) : Prop := x = y ∨ isZero x = true ∧ isZero y = true

theorem Same.refl (x : Float) : Same x x := Or.inl rfl

/-- The same unpacked number, where the sign of zero does not count. -/
inductive SameUnpacked : UnpackedFloat → UnpackedFloat → Prop where
  | refl (u : UnpackedFloat) : SameUnpacked u u
  | zeros (s t : Sign) : SameUnpacked (.zero s) (.zero t)

/-- A zero is unpacked as a zero. -/
theorem unpack_of_isZero {x : Float} (h : isZero x = true) :
    ∃ sign, x.toModel.unpack = .zero sign := by
  have hBottom : x.toBits.toNat % 2 ^ 63 = 0 := by
    unfold isZero at h
    split at h
    · rename_i hExact
      obtain ⟨canonical, hBits⟩ := canonical_of_exact hExact
      have hNormal := canonical.normal
      rw [hBits]
      split <;> omega
    · cases h
  have hUnpacks := unpacks_unpack x.toBits.toBitVec
  change Unpacks x.toBits.toNat x.toModel.unpack at hUnpacks
  have hTop := infinityBits_eq
  generalize x.toModel.unpack = u at hUnpacks ⊢
  cases hUnpacks with
  | notANumber above => omega
  | infinity top => omega
  | zero bottom => exact ⟨_, rfl⟩
  | finite pos steps below short least normal => omega

/-- Doubles that differ in the sign of zero alone are unpacked to numbers that do. -/
theorem Same.unpack {x y : Float} (h : Same x y) :
    SameUnpacked x.toModel.unpack y.toModel.unpack := by
  rcases h with rfl | ⟨hx, hy⟩
  · exact .refl _
  · obtain ⟨s, hs⟩ := unpack_of_isZero hx
    obtain ⟨t, ht⟩ := unpack_of_isZero hy
    rw [hs, ht]
    exact .zeros s t

theorem isZero_pack_zero (sign : Sign) :
    isZero (.ofModel (.pack (.zero sign))) = true := by
  cases sign <;> decide +kernel

/-- Numbers that differ in the sign of zero alone are packed to doubles that do. -/
theorem SameUnpacked.pack {u v : UnpackedFloat} (h : SameUnpacked u v) :
    Same (.ofModel (.pack u)) (.ofModel (.pack v)) := by
  cases h with
  | refl => exact Or.inl rfl
  | zeros s t => exact Or.inr ⟨isZero_pack_zero s, isZero_pack_zero t⟩

namespace SameUnpacked

variable {u u' v v' : UnpackedFloat}

theorem neg (h : SameUnpacked u u') : SameUnpacked u.neg u'.neg := by
  cases h with
  | refl => exact .refl _
  | zeros s t => exact .zeros _ _

theorem trans {w : UnpackedFloat} (h : SameUnpacked u v) (h' : SameUnpacked v w) :
    SameUnpacked u w := by
  cases h with
  | refl => exact h'
  | zeros s t =>
      cases h' with
      | refl => exact .zeros _ _
      | zeros _ _ => exact .zeros _ _

/-- The place of a number does not tell the zeros apart. -/
theorem placeOf_eq (h : SameUnpacked u v) : placeOf u = placeOf v := by
  cases h <;> rfl

/-- An operation takes one zero for the other if it does so on either side. -/
theorem congr {op : UnpackedFloat → UnpackedFloat → UnpackedFloat}
    (left : ∀ s t v, SameUnpacked (op (.zero s) v) (op (.zero t) v))
    (right : ∀ u s t, SameUnpacked (op u (.zero s)) (op u (.zero t)))
    (hu : SameUnpacked u u') (hv : SameUnpacked v v') : SameUnpacked (op u v) (op u' v') := by
  have hLeft : SameUnpacked (op u v) (op u' v) := by
    cases hu with
    | refl => exact .refl _
    | zeros s t => exact left s t v
  have hRight : SameUnpacked (op u' v) (op u' v') := by
    cases hv with
    | refl => exact .refl _
    | zeros s t => exact right u' s t
  exact hLeft.trans hRight

/-- Sums of zeros are zeros. -/
theorem zeros_of_ite {c d : Prop} [Decidable c] [Decidable d] (s t s' t' : Sign) :
    SameUnpacked (if c then .zero s else .zero s') (if d then .zero t else .zero t') := by
  split <;> split <;> exact .zeros _ _

theorem add (hu : SameUnpacked u u') (hv : SameUnpacked v v') :
    SameUnpacked (u.add binary64 v) (u'.add binary64 v') := by
  refine congr (fun s t v => ?_) (fun u s t => ?_) hu hv
  · cases v with
    | zero sign => exact zeros_of_ite _ _ _ _
    | notANumber | infinity _ | finite _ _ _ _ => exact .refl _
  · cases u with
    | zero sign => exact zeros_of_ite _ _ _ _
    | notANumber | infinity _ | finite _ _ _ _ => exact .refl _

theorem sub (hu : SameUnpacked u u') (hv : SameUnpacked v v') :
    SameUnpacked (u.sub binary64 v) (u'.sub binary64 v') := by
  refine congr (fun s t v => ?_) (fun u s t => ?_) hu hv
  · cases v with
    | zero sign => exact zeros_of_ite _ _ _ _
    | notANumber | infinity _ | finite _ _ _ _ => exact .refl _
  · cases u with
    | zero sign => exact zeros_of_ite _ _ _ _
    | notANumber | infinity _ | finite _ _ _ _ => exact .refl _

theorem mul (hu : SameUnpacked u u') (hv : SameUnpacked v v') :
    SameUnpacked (u.mul binary64 v) (u'.mul binary64 v') := by
  refine congr (fun s t v => ?_) (fun u s t => ?_) hu hv
  · cases v with
    | zero _ | finite _ _ _ _ => exact .zeros _ _
    | notANumber | infinity _ => exact .refl _
  · cases u with
    | zero _ | finite _ _ _ _ => exact .zeros _ _
    | notANumber | infinity _ => exact .refl _

/-- The divisor keeps its sign. -/
theorem div (hu : SameUnpacked u u') (v : UnpackedFloat) :
    SameUnpacked (u.div binary64 v) (u'.div binary64 v) := by
  cases hu with
  | refl => exact .refl _
  | zeros s t =>
      cases v with
      | finite _ _ _ _ | infinity _ => exact .zeros _ _
      | notANumber | zero _ => exact .refl _

end SameUnpacked

namespace Same

variable {x x' y y' : Float}

theorem neg (hx : Same x x') : Same (-x) (-x') := hx.unpack.neg.pack

theorem add (hx : Same x x') (hy : Same y y') : Same (x + y) (x' + y') :=
  (hx.unpack.add hy.unpack).pack

theorem sub (hx : Same x x') (hy : Same y y') : Same (x - y) (x' - y') :=
  (hx.unpack.sub hy.unpack).pack

theorem mul (hx : Same x x') (hy : Same y y') : Same (x * y) (x' * y') :=
  (hx.unpack.mul hy.unpack).pack

theorem isZero_eq (h : Same x x') : isZero x = isZero x' := by
  rcases h with rfl | ⟨hx, hx'⟩
  · rfl
  · rw [hx, hx']

/-- A divisor that is zero is excluded: its sign decides between the infinities. -/
theorem div (hx : Same x x') (hy : Same y y') (hDivisor : isZero y = false) :
    Same (x / y) (x' / y') := by
  rcases hy with rfl | ⟨hZero, -⟩
  · exact (hx.unpack.div _).pack
  · exact absurd (hDivisor.symm.trans hZero) Bool.false_ne_true

/-- The order of doubles does not tell the zeros apart. -/
theorem order?_eq (hx : Same x x') (hy : Same y y') : order? x y = order? x' y' := by
  have hPlace {a b : Float} (h : Same a b) : place? a = place? b := by
    rw [place?_eq, place?_eq, h.unpack.placeOf_eq]
  rw [order?, order?, hPlace hx, hPlace hy]

/-- A number is equal to one that is the same. -/
theorem beq (h : Same x y) (hNumber : isNaN x = false) : (x == y) = true := by
  rw [beq_iff_order?, ← (refl x).order?_eq h, order?]
  cases hPlace : place? x with
  | none => exact absurd ((place?_eq_none_iff x).mp hPlace) (by simp [hNumber])
  | some p => exact congrArg some (Int.compare_eq_eq.mpr rfl)

end Same

end RowFormula.Number
