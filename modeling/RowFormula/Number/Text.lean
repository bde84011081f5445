import RowFormula.Number.Whole
import RowFormula.Number.Shortest

/-! The text of numbers. All forms write the shortest digits that read back; a layout
says which magnitudes are written with an exponent and how. -/
namespace RowFormula.Number

/-- How doubles are written. -/
structure Layout where
  /-- The choice between two equally near decimals of the same length. -/
  tie : Tie
  /-- Whether a number whose first digit stands for `10 ^ n` is written without exponent. -/
  positional : Int → Bool
  /-- What follows a number without fraction. -/
  wholeSuffix : String
  /-- What stands between the mantissa and a positive exponent. -/
  exponentMark : String
  nan : String
  infinity : String

/-- Stored numbers never have an exponent. -/
def plain : Layout where
  tie := .up
  positional _ := true
  wholeSuffix := ""
  exponentMark := "e"
  nan := "NaN"
  infinity := "inf"

/-- Numbers in an outline show that they are numbers: a fraction or an exponent is never
missing. The positional form holds from `0.0001` up to `10 ^ 16`. -/
def outlined : Layout where
  tie := .up
  positional n := -4 ≤ n && n < 16
  wholeSuffix := ".0"
  exponentMark := "e"
  nan := "NaN"
  infinity := "inf"

/-- Numbers in JSON. The positional form holds from `0.00001` up to `10 ^ 16`; a positive
exponent has its sign. JSON has no text for NaN and infinity. -/
def json : Layout where
  tie := .even
  positional n := -5 ≤ n && n < 16
  wholeSuffix := ".0"
  exponentMark := "e+"
  nan := "null"
  infinity := "null"

/-- The decimal digits of a natural number. -/
def digitChars (n : Nat) : List Char := Nat.toDigits 10 n

/-- The decimal digits, with zeros in front up to a width. -/
def padded (width n : Nat) : List Char :=
  List.replicate (width - (digitChars n).length) '0' ++ digitChars n

/-- An integer with its minus sign, with zeros in front up to a width that counts
the sign too. -/
def paddedInt (width : Nat) (n : Int) : List Char :=
  if n < 0 then '-' :: padded (width - 1) n.natAbs else padded width n.natAbs

/-- The integer in decimal digits. -/
def intText (n : Int) : String := String.ofList (paddedInt 0 n)

/-- A decimal without exponent. -/
def positionalChars (wholeSuffix : List Char) (d : Decimal) : List Char :=
  let digits := digitChars d.digits
  if 0 ≤ d.exponent then digits ++ List.replicate d.exponent.toNat '0' ++ wholeSuffix
  else
    let places := (-d.exponent).toNat
    let shifted := List.replicate (places + 1 - digits.length) '0' ++ digits
    shifted.take (shifted.length - places) ++ '.' :: shifted.drop (shifted.length - places)

/-- The power of ten that the first digit stands for. -/
def Decimal.magnitude (d : Decimal) : Int := d.exponent + digitCount d.digits - 1

/-- A decimal with one digit before the point and an exponent. -/
def exponentChars (mark : List Char) (d : Decimal) : List Char :=
  let mantissa :=
    match digitChars d.digits with
    | [] => []
    | [digit] => [digit]
    | first :: rest => first :: '.' :: rest
  let n := d.magnitude
  mantissa ++ (if n < 0 then 'e' :: '-' :: digitChars n.natAbs else mark ++ digitChars n.natAbs)

/-- The text of a double under a layout. -/
def Layout.write (layout : Layout) (x : Float) : String :=
  match exact x with
  | .nan => layout.nan
  | .infinite negative => if negative then "-" ++ layout.infinity else layout.infinity
  | .finite negative mantissa exponent =>
    let d : Decimal := if mantissa = 0 then ⟨0, 0⟩ else shortest layout.tie mantissa exponent
    let chars :=
      if mantissa = 0 ∨ layout.positional d.magnitude then
        positionalChars layout.wholeSuffix.toList d
      else exponentChars layout.exponentMark.toList d
    String.ofList (if negative then '-' :: chars else chars)

/-- The text of a computed number. A whole number below `10 ^ 15` is an integer without
sign on zero; the infinities are words. -/
def text (x : Float) : String :=
  match exact x with
  | .nan => "NaN"
  | .infinite negative => if negative then "-Infinity" else "Infinity"
  | .finite negative mantissa exponent =>
    let whole := wholePart negative mantissa exponent
    if isWhole x && whole.natAbs < tenTo 15 then intText whole else plain.write x

end RowFormula.Number
