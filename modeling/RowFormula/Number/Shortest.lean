import RowFormula.Number.Exact

/-! The fewest decimal digits that read back as a given double. All decimals in the
interval that rounds to the double read back; the coarsest grid of decimals that meets
the interval fixes how many digits are needed, and of its points the nearest is taken. -/
namespace RowFormula.Number

/-- The decimal `digits · 10 ^ exponent`. -/
structure Decimal where
  digits : Nat
  exponent : Int
  deriving DecidableEq

/-- Which of two decimals equally near to a double is taken. -/
inductive Tie where
  | up
  | even
  deriving DecidableEq

/-- The number of decimal digits, one for zero. -/
def digitCount (n : Nat) : Nat := (Nat.toDigits 10 n).length

/-- The least `k` with `n / d < 10 ^ k`, for positive `n` and `d`. -/
def leadingPlace (n d : Nat) : Int :=
  if d ≤ n then digitCount (n / d)
  else
    let zeros := digitCount (d / n) - 1
    if d = n * tenTo zeros then 1 - (zeros : Int) else -(zeros : Int)

/-- The point of the grid `10 ^ grid` that is taken for `mantissa · 2 ^ exponent`, when one
lies in the interval of the double. Four units make one mantissa step, so that the
nearer neighbour below a power of two is a whole number of units away too. The ends
belong to the interval when the mantissa is even. -/
def onGrid? (tie : Tie) (mantissa : Nat) (exponent grid : Int) : Option Nat :=
  let below := if mantissa = twoTo 52 ∧ -1074 < exponent then 1 else 2
  let unit := twoTo (exponent - 2).toNat * tenTo (-grid).toNat
  let step := twoTo (2 - exponent).toNat * tenTo grid.toNat
  let value := 4 * mantissa * unit
  let least := (4 * mantissa - below) * unit
  let greatest := (4 * mantissa + 2) * unit
  let inside := fun c : Nat =>
    if mantissa % 2 = 0 then decide (least ≤ c * step ∧ c * step ≤ greatest)
    else decide (least < c * step ∧ c * step < greatest)
  let low := value / step
  let high := low + 1
  match decide (low ≠ 0) && inside low, inside high with
  | false, false => none
  | true, false => some low
  | false, true => some high
  | true, true =>
    let pastLow := value - low * step
    let beforeHigh := high * step - value
    if pastLow < beforeHigh then some low
    else if beforeHigh < pastLow then some high
    else match tie with
      | .up => some high
      | .even => some (if low % 2 = 0 then low else high)

/-- The digits without the zeros at their end. -/
def stripZeros (fuel : Nat) (d : Decimal) : Decimal :=
  match fuel with
  | 0 => d
  | fuel + 1 =>
    if d.digits ≠ 0 ∧ d.digits % 10 = 0 then
      stripZeros fuel ⟨d.digits / 10, d.exponent + 1⟩
    else d

/-- The shortest decimal of a positive double. Seventeen digits always suffice. -/
def shortest (tie : Tie) (mantissa : Nat) (exponent : Int) : Decimal :=
  let top := leadingPlace (mantissa * twoTo exponent.toNat) (twoTo (-exponent).toNat)
  let found := (List.range 17).findSome? fun (n : Nat) =>
    let grid := top - ((n : Int) + 1)
    (onGrid? tie mantissa exponent grid).map fun digits => (⟨digits, grid⟩ : Decimal)
  match found with
  | some d => stripZeros (digitCount d.digits) d
  | none => ⟨0, 0⟩

end RowFormula.Number
