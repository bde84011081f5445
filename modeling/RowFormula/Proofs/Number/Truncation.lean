import RowFormula.Formula.Function.Argument
import RowFormula.Proofs.Number.Integer

/-! Whole parts of doubles. Functions hold the whole part of a number between two bounds; no count
between the bounds tells the difference. -/
namespace RowFormula

namespace Number

/-- The whole part of a double, cut toward zero. It is infinite where the double is, and NaN has
none. -/
def whole? (x : Float) : Option (WithBot (WithTop ℤ)) :=
  match exact x with
  | .nan => none
  | .infinite negative => some (if negative then ⊥ else ⊤)
  | .finite negative mantissa exponent =>
    let magnitude := ⌊(mantissa * 2 ^ exponent : ℚ)⌋
    some (((if negative then -magnitude else magnitude : ℤ) : WithTop ℤ) : WithBot (WithTop ℤ))

variable {x : Float} {k : WithBot (WithTop ℤ)}

/-- The whole part is computed by dividing natural numbers. -/
theorem wholePart_eq_floor (negative : Bool) (mantissa : ℕ) (exponent : ℤ) :
    wholePart negative mantissa exponent =
      if negative then -⌊(mantissa * 2 ^ exponent : ℚ)⌋ else ⌊(mantissa * 2 ^ exponent : ℚ)⌋ := by
  have hFloor : ⌊(mantissa * 2 ^ exponent : ℚ)⌋ =
      ((mantissa * twoTo exponent.toNat / twoTo (-exponent).toNat : ℕ) : ℤ) := by
    rw [two_zpow, ← mul_div_assoc, ← Nat.cast_mul, Rat.floor_natCast_div_natCast]
    exact (Int.natCast_ediv _ _).symm
  rw [wholePart, hFloor]

/-- NaN has no whole part. -/
theorem isNaN_of_whole? (h : whole? x = some k) : isNaN x = false := by
  rw [isNaN]
  cases hExact : exact x with
  | nan =>
      rw [whole?, hExact] at h
      cases h
  | infinite | finite => rfl

/-- The whole part of an integer is that integer. -/
theorem Holds.whole?_eq {n : ℤ} (h : Holds x n) :
    whole? x = some ((n : WithTop ℤ) : WithBot (WithTop ℤ)) := by
  obtain ⟨mantissa, exponent, hExact, hValue⟩ := h
  have hWhole := Holds.wholePart_eq hValue
  rw [wholePart_eq_floor] at hWhole
  rw [whole?, hExact]
  exact congrArg (fun k : ℤ => some ((k : WithTop ℤ) : WithBot (WithTop ℤ))) hWhole

/-- The whole part of infinity is infinite. -/
theorem whole?_infinity : whole? (Float.ofBits 0x7FF0000000000000) = some ⊤ := by
  have hExact : exact (Float.ofBits 0x7FF0000000000000) = .infinite false := by decide +kernel
  rw [whole?, hExact]
  rfl

/-- The whole part held between two bounds. -/
theorem clamp_cases (h : whole? x = some k) (least greatest : ℤ) :
    (k = ⊥ ∧ clamp least greatest x = least) ∨ (k = ⊤ ∧ clamp least greatest x = greatest) ∨
      ∃ n : ℤ, k = ((n : WithTop ℤ) : WithBot (WithTop ℤ)) ∧
        clamp least greatest x = max least (min greatest n) := by
  cases hExact : exact x with
  | nan =>
      rw [whole?, hExact] at h
      cases h
  | infinite negative =>
      rw [whole?, hExact] at h
      rw [clamp, hExact]
      cases h
      cases negative
      · exact Or.inr (Or.inl ⟨rfl, rfl⟩)
      · exact Or.inl ⟨rfl, rfl⟩
  | finite negative mantissa exponent =>
      rw [whole?, hExact] at h
      rw [clamp, hExact]
      cases h
      exact Or.inr (Or.inr ⟨_, rfl, by rw [← wholePart_eq_floor]⟩)

/-- A natural whole part is held between the bounds. -/
theorem clamp_of_natCast {n : ℕ} (h : whole? x = some (n : WithBot (WithTop ℤ)))
    (least greatest : ℤ) : clamp least greatest x = max least (min greatest n) := by
  rcases clamp_cases h least greatest with ⟨hBot, -⟩ | ⟨hTop, -⟩ | ⟨m, hWhole, hClamp⟩
  · exact absurd hBot (WithBot.natCast_ne_bot n)
  · exact absurd (WithBot.coe_inj.mp hTop) (WithTop.natCast_ne_top n)
  · have hEq : (n : ℤ) = m := by exact_mod_cast hWhole
    rw [hClamp, hEq]

end Number

namespace Argument

open Number (whole? clamp_cases clamp_of_natCast twoTo)

/-- The greatest count and the greatest place that functions tell from others. -/
def countLimit : ℕ := 2 ^ 64 - 1

variable {x : Float} {k : WithBot (WithTop ℤ)}

/-- A number with a whole part is read as itself. -/
theorem toNumber_number (h : whole? x = some k) : toNumber (.number x) = .ok x := by
  rw [toNumber, Value.number?, Number.isNaN_of_whole? h]
  rfl

theorem countLimit_eq : (twoTo 64 : ℤ) - 1 = countLimit := by decide

/-- What is above a natural number is at least one. -/
theorem one_le_of_natCast_lt {n : ℕ} (h : n < k) : 1 ≤ k := by
  induction k using WithBot.recBotCoe with
  | bot => exact absurd h not_lt_bot
  | coe k =>
      induction k using WithTop.recTopCoe with
      | top => exact le_top
      | coe k =>
          have hn : (n : ℤ) < k := by exact_mod_cast h
          have hOne : 1 ≤ k := by omega
          exact_mod_cast hOne

/-- Places begin at one. -/
theorem toPlace_of_lt_one (h : whole? x = some k) (hLess : k < 1) :
    toPlace x = .error .wrongType := by
  have hBelow : Number.clamp 0 (twoTo 64 - 1) x < 1 := by
    rcases clamp_cases h 0 (twoTo 64 - 1) with ⟨-, hClamp⟩ | ⟨rfl, -⟩ | ⟨n, rfl, hClamp⟩
    · rw [hClamp]
      exact Int.one_pos
    · exact absurd hLess not_top_lt
    · have hn : n < 1 := by exact_mod_cast hLess
      rw [hClamp]
      omega
  simp only [toPlace, if_pos hBelow]

/-- A place is compared as the whole part is with all places that texts have. -/
theorem exists_toPlace (h : whole? x = some k) (hOne : 1 ≤ k) :
    ∃ n, toPlace x = .ok n ∧ 1 ≤ n ∧ ∀ p : ℕ, p < countLimit → (n ≤ p ↔ k ≤ p) := by
  have hLimit := countLimit_eq
  rcases clamp_cases h 0 (twoTo 64 - 1) with ⟨rfl, -⟩ | ⟨rfl, hClamp⟩ | ⟨n, rfl, hClamp⟩
  · exact absurd hOne (by decide)
  · refine ⟨countLimit, ?_, by decide, fun p hp => iff_of_false hp.not_ge ?_⟩
    · rw [toPlace, hClamp, hLimit]
      rfl
    · exact fun hTop => WithTop.natCast_ne_top p (top_le_iff.mp (WithBot.coe_le_coe.mp hTop))
  · have hn : 1 ≤ n := by exact_mod_cast hOne
    rw [hLimit] at hClamp
    have hPos : (1 : ℤ) ≤ countLimit := by decide
    refine ⟨(min (countLimit : ℤ) n).toNat, ?_, by omega, fun p hp => ?_⟩
    · simp only [toPlace, hLimit, hClamp]
      rw [if_neg (by omega), max_eq_right (by omega)]
    · have hWhole : (((n : WithTop ℤ) : WithBot (WithTop ℤ)) ≤ p) ↔ n ≤ p := by norm_cast
      rw [hWhole]
      omega

/-- A place beyond the greatest one counts as that one. -/
theorem toPlace_of_natCast {p : ℕ} (h : whole? x = some (p : WithBot (WithTop ℤ))) (hOne : 1 ≤ p) :
    toPlace x = .ok (min countLimit p) := by
  have hPos : 1 ≤ countLimit := by decide
  have hClamp : Number.clamp 0 (twoTo 64 - 1) x = (min countLimit p : ℕ) := by
    rw [clamp_of_natCast h, countLimit_eq]
    omega
  simp only [toPlace, hClamp, Int.toNat_natCast]
  rw [if_neg (by omega)]

/-- A count beyond the greatest one counts as that one. -/
theorem toCount_of_natCast {n : ℕ} (h : whole? x = some (n : WithBot (WithTop ℤ))) :
    toCount x = .ok (min countLimit n) := by
  have hClamp : Number.clamp (-1) (twoTo 64 - 1) x = (min countLimit n : ℕ) := by
    rw [clamp_of_natCast h, countLimit_eq]
    omega
  simp only [toCount, hClamp, Int.toNat_natCast]
  rw [if_neg (by omega)]

theorem length_ofList_le (cs : List Char) : cs.length ≤ (String.ofList cs).utf8ByteSize := by
  induction cs with
  | nil => exact Nat.zero_le _
  | cons c cs ih =>
      have hSize := c.utf8Size_pos
      rw [String.ofList_cons, String.utf8ByteSize_append, String.utf8ByteSize_singleton,
        List.length_cons]
      omega

/-- No text in memory has `2 ^ 63` bytes, so it has fewer characters than can be counted. -/
theorem length_lt_countLimit {text : String} (h : text.utf8ByteSize < 2 ^ 63) :
    text.toList.length + 1 < countLimit := by
  have hLength := length_ofList_le text.toList
  rw [String.ofList_toList] at hLength
  unfold countLimit
  omega

end Argument

end RowFormula
