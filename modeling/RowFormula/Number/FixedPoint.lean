import RowFormula.Number.Whole
import RowFormula.Number.Shortest

/-! Rounding to decimal places on the decimal that a number is written as, and not on
the binary fraction it is stored as: `2.675` to two places is `2.68`. A fixed-point
number has at most 28 places and a mantissa below `2 ^ 96`. -/
namespace RowFormula.Number

/-- The number `± mantissa / 10 ^ scale`. -/
structure FixedPoint where
  negative : Bool
  mantissa : Nat
  scale : Nat
  deriving DecidableEq

namespace FixedPoint

/-- The greatest number of places. -/
def maxScale : Nat := 28

/-- Mantissas stay below this. -/
def mantissaLimit : Nat := twoTo 96

/-- The quotient rounded to the nearest integer, halves up. -/
def divideHalfUp (n d : Nat) : Nat := (2 * n + d) / (2 * d)

/-- Zero has no sign. -/
def make (negative : Bool) (mantissa scale : Nat) : FixedPoint :=
  ⟨negative && mantissa ≠ 0, mantissa, scale⟩

/-- The shortest decimal of a finite double, rounded where it has too many places; none
when it has too many digits before the point. -/
def ofFloat? (x : Float) : Option FixedPoint :=
  match exact x with
  | .finite negative mantissa exponent =>
    if mantissa = 0 then some (make negative 0 0)
    else
      let d := shortest .up mantissa exponent
      let places := (-d.exponent).toNat
      let whole := d.digits * tenTo d.exponent.toNat
      if mantissaLimit ≤ whole / tenTo places then none
      else if places ≤ maxScale then some (make negative whole places)
      else some (make negative (divideHalfUp whole (tenTo (places - maxScale))) maxScale)
  | _ => none

/-- Rounded to a number of places, a half away from zero. -/
def roundTo (places : Nat) (d : FixedPoint) : FixedPoint :=
  if d.scale ≤ places then d
  else make d.negative (divideHalfUp d.mantissa (tenTo (d.scale - places))) places

/-- Rounded to a multiple of `10 ^ k`, a half away from zero; none when the multiple has
too many digits. -/
def roundToTens? (k : Nat) (d : FixedPoint) : Option FixedPoint :=
  let multiple := divideHalfUp d.mantissa (tenTo (d.scale + k)) * tenTo k
  if mantissaLimit ≤ multiple then none else some (make d.negative multiple 0)

/-- The number as a double. The whole part and the fraction are converted each for itself
and their sum is rounded once more to the places that the number has. -/
def toFloat (d : FixedPoint) : Float :=
  let unit := tenTo d.scale
  let whole := ofInt (d.mantissa / unit : Nat)
  let magnitude :=
    if d.mantissa % unit = 0 then whole
    else
      let sum := whole + ofInt (d.mantissa % unit : Nat) / ofInt (unit : Nat)
      let shift := power 10 d.scale
      round .nearest (sum * shift) / shift
  if d.negative then -magnitude else magnitude

end FixedPoint

/-- Rounding to a multiple of `10 ^ k` in doubles, for what no fixed-point number holds. -/
def roundToTens (k : Nat) (x : Float) : Float :=
  let scale := power 10 k
  if !isFinite scale || x.abs < 0.5 * scale then 0
  else round .nearest (x / scale) * scale

/-- The number rounded to decimal places, a half away from zero. Negative places count
tens. With more places than a fixed-point number has, the number is not changed. -/
def roundPlaces (places : Int) (x : Float) : Float :=
  if !isFinite x || FixedPoint.maxScale < places then x
  else
    match FixedPoint.ofFloat? x with
    | none => x
    | some d =>
      if 0 ≤ places then (d.roundTo places.toNat).toFloat
      else
        let k := (-places).toNat
        if FixedPoint.maxScale < k then roundToTens k x
        else
          match d.roundToTens? k with
          | some rounded => rounded.toFloat
          | none => roundToTens k x

end RowFormula.Number
