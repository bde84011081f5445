import RowFormula.Number.Exact

/-! The double nearest to a fraction, a tie going to the even mantissa. Everything
is counted in units of the double's last place, so the only rounding is one division. -/
namespace RowFormula.Number

/-- The quotient rounded to the nearest integer, halves to the even one. -/
def divideToEven (n d : Nat) : Nat :=
  let q := n / d
  let twice := 2 * (n % d)
  if d < twice ∨ (twice = d ∧ q % 2 = 1) then q + 1 else q

/-- The exponent of the last place of a double near `n / d`. -/
def lastPlace (n d : Nat) : Int :=
  let guess : Int := (n.log2 : Int) - d.log2 - 52
  let small := decide (n * twoTo (-guess).toNat < d * twoTo guess.toNat * twoTo 52)
  max (if small then guess - 1 else guess) (-1074)

/-- The pattern of the double nearest to `n / d`, for positive `d`. The mantissa carries
into the exponent by itself, and beyond the last finite double stands infinity. -/
def nearestBits (n d : Nat) : Nat :=
  let place := lastPlace n d
  let mantissa := divideToEven (n * twoTo (-place).toNat) (d * twoTo place.toNat)
  min ((place + 1074).toNat * twoTo 52 + mantissa) infinityBits

/-- The double nearest to `± n / d`, for positive `d`. -/
def nearest (negative : Bool) (n d : Nat) : Float :=
  let magnitude := if n = 0 then 0 else nearestBits n d
  Float.ofBits (UInt64.ofNat (if negative then magnitude + twoTo 63 else magnitude))

/-- The double nearest to an integer. -/
def ofInt (n : Int) : Float := nearest (decide (n < 0)) n.natAbs 1

/-- The double nearest to `± digits · 10 ^ exponent`. Far outside the range of doubles the
answer does not hang on the digits, so no power of ten is computed there. -/
def ofDecimal (negative : Bool) (digits : Nat) (exponent : Int) : Float :=
  if digits = 0 then nearest negative 0 1
  else if 310 < exponent then nearest negative (twoTo 1024) 1
  else if exponent < -400 - (digits.log2 : Int) then nearest negative 0 1
  else nearest negative (digits * tenTo exponent.toNat) (tenTo (-exponent).toNat)

end RowFormula.Number
