import RowFormula.Number.Power

/-! The exact content of a double. A finite double is `± mantissa · 2 ^ exponent`, and
every question that needs no rounding is answered on those two integers. -/
namespace RowFormula.Number

/-- What a double stands for. Zero is finite with mantissa `0` and keeps its sign. -/
inductive Exact where
  | nan
  | infinite (negative : Bool)
  | finite (negative : Bool) (mantissa : Nat) (exponent : Int)
  deriving DecidableEq

/-- The bit patterns from this one up, signs aside, are the infinities and NaN. -/
def infinityBits : Nat := 2047 * twoTo 52

/-- Subnormal doubles share the exponent of the least normal ones. -/
def exact (x : Float) : Exact :=
  let bits := x.toBits.toNat
  let negative := decide (twoTo 63 ≤ bits)
  let biased : Nat := bits / twoTo 52 % 2048
  let fraction : Nat := bits % twoTo 52
  if biased = 2047 then
    if fraction = 0 then .infinite negative else .nan
  else if biased = 0 then .finite negative fraction (-1074)
  else .finite negative (fraction + twoTo 52) ((biased : Int) - 1075)

def isNaN (x : Float) : Bool := exact x = .nan

/-- Neither infinite nor NaN. -/
def isFinite (x : Float) : Bool :=
  match exact x with
  | .finite .. => true
  | _ => false

/-- Either of the two zeros. -/
def isZero (x : Float) : Bool :=
  match exact x with
  | .finite _ 0 _ => true
  | _ => false

/-- The place of a double in the order of doubles, none for NaN. Patterns of one sign are
ordered as the doubles are, so a signed pattern is ordered as the double; both zeros
have place `0`. -/
def place? (x : Float) : Option Int :=
  let bits := x.toBits.toNat
  let magnitude := bits % twoTo 63
  if infinityBits < magnitude then none
  else if twoTo 63 ≤ bits then some (-magnitude) else some magnitude

/-- The order of two doubles, none as soon as one is NaN. -/
def order? (a b : Float) : Option Ordering :=
  match place? a, place? b with
  | some p, some q => some (compare p q)
  | _, _ => none

/-- Comparing the other way round turns the answer round. -/
theorem order?_swap (a b : Float) : (order? a b).map Ordering.swap = order? b a := by
  unfold order?
  cases place? a <;> cases place? b <;> simp [Int.compare_swap]

end RowFormula.Number
