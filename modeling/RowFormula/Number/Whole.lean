import RowFormula.Number.Nearest

/-! Whole numbers from doubles. A double whose last place is at least one is whole
already; any other is split into whole part and rest before it is rounded. -/
namespace RowFormula.Number

/-- Where a number between two whole numbers goes. -/
inductive Rounding where
  | floor
  | ceiling
  | truncate
  /-- To the nearer one, a half away from zero. -/
  | nearest
  deriving DecidableEq

/-- The magnitude of `± (whole + rest / unit)` when rounded, for `rest < unit`. -/
def Rounding.magnitude (rule : Rounding) (negative : Bool) (whole rest unit : Nat) : Nat :=
  let away :=
    match rule with
    | .floor => negative && rest ≠ 0
    | .ceiling => !negative && rest ≠ 0
    | .truncate => false
    | .nearest => decide (unit ≤ 2 * rest)
  if away then whole + 1 else whole

/-- The double rounded to a whole one. Its sign stays, also on zero, and so do the
infinities and NaN. -/
def round (rule : Rounding) (x : Float) : Float :=
  match exact x with
  | .finite negative mantissa exponent =>
    if 0 ≤ exponent then x
    else
      let unit := twoTo (-exponent).toNat
      nearest negative (rule.magnitude negative (mantissa / unit) (mantissa % unit) unit) 1
  | _ => x

/-- The whole part of a finite double. -/
def wholePart (negative : Bool) (mantissa : Nat) (exponent : Int) : Int :=
  let magnitude := mantissa * twoTo exponent.toNat / twoTo (-exponent).toNat
  if negative then -magnitude else magnitude

/-- The whole part, held between two bounds. NaN counts as zero. -/
def clamp (least greatest : Int) (x : Float) : Int :=
  match exact x with
  | .nan => 0
  | .infinite negative => if negative then least else greatest
  | .finite negative mantissa exponent =>
    max least (min greatest (wholePart negative mantissa exponent))

/-- The whole part as a signed 64-bit integer. -/
def toInt64 (x : Float) : Int := clamp (-twoTo 63) (twoTo 63 - 1) x

/-- The whole part as a signed 32-bit integer. -/
def toInt32 (x : Float) : Int := clamp (-twoTo 31) (twoTo 31 - 1) x

/-- A finite double without a fraction. -/
def isWhole (x : Float) : Bool :=
  match exact x with
  | .finite _ mantissa exponent =>
    decide (0 ≤ exponent) || mantissa % twoTo (-exponent).toNat = 0
  | _ => false

/-- The power by repeated squaring, one multiplication for each set bit of `n`. -/
def powNat (base : Float) (n : Nat) (acc : Float) : Float :=
  let acc := if n % 2 = 1 then acc * base else acc
  if n / 2 = 0 then acc else powNat (base * base) (n / 2) acc
termination_by n

/-- The power with a signed exponent. A negative one inverts the positive power. -/
def power (base : Float) (n : Int) : Float :=
  let p := powNat base n.natAbs 1
  if n < 0 then 1 / p else p

end RowFormula.Number
