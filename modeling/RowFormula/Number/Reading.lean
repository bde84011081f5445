import RowFormula.Number.Nearest

/-! Decimal text read as the nearest double. A mantissa has digits with at most one
point among them and at least one digit; words such as infinity are not numbers. -/
namespace RowFormula.Number

/-- The value of decimal digits, the first the most significant. -/
def digitsValue (cs : List Char) : Nat :=
  cs.foldl (fun n c => 10 * n + (c.toNat - '0'.toNat)) 0

/-- The digits in front and what follows them. -/
def spanDigits (cs : List Char) : List Char × List Char :=
  (cs.takeWhile Char.isDigit, cs.dropWhile Char.isDigit)

/-- A sign in front, and what follows it. -/
def readSign : List Char → Bool × List Char
  | '-' :: rest => (true, rest)
  | '+' :: rest => (false, rest)
  | cs => (false, cs)

/-- The digits before and after the point, and what follows the mantissa. -/
def readMantissa? (cs : List Char) : Option (List Char × List Char × List Char) :=
  let (whole, rest) := spanDigits cs
  let (fraction, rest) :=
    match rest with
    | '.' :: after => spanDigits after
    | _ => ([], rest)
  if whole = [] ∧ fraction = [] then none else some (whole, fraction, rest)

/-- The exponent after a mantissa, up to the end of the text. -/
def readExponent? : List Char → Option Int
  | [] => some 0
  | e :: rest =>
    if e = 'e' ∨ e = 'E' then
      let (negative, digits) := readSign rest
      if digits ≠ [] ∧ digits.all Char.isDigit then
        let n := digitsValue digits
        some (if negative then -(n : Int) else n)
      else none
    else none

/-- The double nearest to signed decimal text with an optional exponent. -/
def readDecimal? (cs : List Char) : Option Float := do
  let (negative, rest) := readSign cs
  let (whole, fraction, rest) ← readMantissa? rest
  let exponent ← readExponent? rest
  return ofDecimal negative (digitsValue (whole ++ fraction)) (exponent - fraction.length)

end RowFormula.Number
