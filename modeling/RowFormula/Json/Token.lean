import RowFormula.Json
import RowFormula.Number.Reading
import RowFormula.Number.Whole

/-! The lexemes of JSON text. -/
namespace RowFormula.Json

inductive Token where
  | openList | closeList | openObject | closeObject | colon | comma
  /-- A string; none when it has half a surrogate pair. -/
  | string (s : Option String)
  /-- A literal name or a number. -/
  | scalar (j : Json)

/-- The white space of JSON. -/
def isSpace (c : Char) : Bool := c = ' ' || c = '\t' || c = '\n' || c = '\r'

/-- The greatest integer of 64 bits. -/
def maxSignificand : Nat := Number.twoTo 64 - 1

/-- A significand continued by the digits that fit 64 bits, and how many did. -/
def accumulate (significand : Nat) : List Char → Nat × Nat
  | [] => (significand, 0)
  | c :: rest =>
    let next := significand * 10 + (c.toNat - '0'.toNat)
    if maxSignificand < next then (significand, 0)
    else
      let (final, n) := accumulate next rest
      (final, n + 1)

/-- The greatest power of ten that is a double. -/
def maxPower : Nat := 308

/-- The double `10 ^ n`. -/
def powerOfTen (n : Nat) : Float := Number.ofDecimal false 1 n

/-- A double times a power of ten, by one multiplication or division for each table entry
that is needed; none beyond the doubles. -/
def scale? (x : Float) (exponent : Int) : Option Float :=
  if exponent < -maxPower then
    if Number.isZero x then some x
    else scale? (x / powerOfTen maxPower) (exponent + maxPower)
  else if exponent < 0 then some (x / powerOfTen exponent.natAbs)
  else if maxPower < exponent then if Number.isZero x then some x else none
  else
    let product := x * powerOfTen exponent.natAbs
    if Number.isFinite product then some product else none
termination_by (-exponent).toNat
decreasing_by
  simp only [maxPower] at *
  omega

/-- The number with these digits. Digits that no longer fit 64 bits only scale it, or are
dropped after the point. -/
def numberOf (negative : Bool) (whole fraction : List Char) (exponent : Option Int) : Json :=
  let (significand, taken) := accumulate 0 whole
  let dropped := whole.length - taken
  if fraction = [] ∧ exponent = none ∧ dropped = 0 ∧
      (negative → significand ≠ 0 ∧ significand ≤ Number.twoTo 63) then
    .number (.integer (if negative then -(significand : Int) else significand))
  else
    let (significand, places) := accumulate significand fraction
    match scale? (Number.ofInt significand) (exponent.getD 0 + dropped - places) with
    | some x => .number (.double (if negative then -x else x))
    | none => .unreadable

/-- The digits of a number with what follows them: the part before the point has no
needless zero in front. -/
def wholeDigits? (cs : List Char) : Option (List Char × List Char) :=
  match cs with
  | '0' :: rest => some (['0'], rest)
  | _ =>
    let digits := cs.takeWhile Char.isDigit
    if digits = [] then none else some (digits, cs.drop digits.length)

/-- A point with digits after it, if there is one. -/
def fractionDigits (cs : List Char) : List Char × List Char :=
  match cs with
  | '.' :: rest =>
    let digits := rest.takeWhile Char.isDigit
    if digits = [] then ([], cs) else (digits, rest.drop digits.length)
  | _ => ([], cs)

/-- An exponent, if there is one. -/
def exponentDigits (cs : List Char) : Option Int × List Char :=
  match cs with
  | e :: rest =>
    if e = 'e' ∨ e = 'E' then
      let (negative, unsigned) := Number.readSign rest
      let digits := unsigned.takeWhile Char.isDigit
      let n : Int := Number.digitsValue digits
      if digits = [] then (none, cs)
      else (some (if negative then -n else n), unsigned.drop digits.length)
    else (none, cs)
  | [] => (none, cs)

/-- A number in front, with what follows it. -/
def number? (cs : List Char) : Option (Json × List Char) := do
  let (negative, unsigned) :=
    match cs with
    | '-' :: rest => (true, rest)
    | _ => (false, cs)
  let (whole, rest) ← wholeDigits? unsigned
  let (fraction, rest) := fractionDigits rest
  let (exponent, rest) := exponentDigits rest
  some (numberOf negative whole fraction exponent, rest)

/-- A piece of a string: a character, or the sixteen bits of a `\u` escape. -/
inductive Piece where
  | char (c : Char)
  | bits (n : Nat)

def hexDigit? (c : Char) : Option Nat :=
  if c.isDigit then some (c.toNat - '0'.toNat)
  else if 'a' ≤ c ∧ c ≤ 'f' then some (c.toNat - 'a'.toNat + 10)
  else if 'A' ≤ c ∧ c ≤ 'F' then some (c.toNat - 'A'.toNat + 10)
  else none

/-- Four hexadecimal digits. -/
def hexValue? (a b c d : Char) : Option Nat := do
  let a ← hexDigit? a
  let b ← hexDigit? b
  let c ← hexDigit? c
  let d ← hexDigit? d
  some (((a * 16 + b) * 16 + c) * 16 + d)

/-- What an escape of one letter stands for. -/
def escaped? (c : Char) : Option Char :=
  if c = '"' ∨ c = '\\' ∨ c = '/' then some c
  else if c = 'b' then some '\x08'
  else if c = 'f' then some '\x0c'
  else if c = 'n' then some '\n'
  else if c = 'r' then some '\r'
  else if c = 't' then some '\t'
  else none

/-- The pieces of a string after its opening quote, and what follows its closing one. -/
def pieces? : List Char → Option (List Piece × List Char)
  | [] => none
  | '"' :: rest => some ([], rest)
  | '\\' :: 'u' :: a :: b :: c :: d :: rest => do
    let n ← hexValue? a b c d
    let (pieces, rest) ← pieces? rest
    some (.bits n :: pieces, rest)
  | '\\' :: letter :: rest => do
    let c ← escaped? letter
    let (pieces, rest) ← pieces? rest
    some (.char c :: pieces, rest)
  | c :: rest =>
    if c = '\\' ∨ c.toNat < 0x20 then none
    else do
      let (pieces, rest) ← pieces? rest
      some (.char c :: pieces, rest)

/-- The characters of the pieces. Two escapes may be the halves of one character; half
a character alone is none. -/
def join? : List Piece → Option (List Char)
  | [] => some []
  | .char c :: rest => (join? rest).map (c :: ·)
  | .bits n :: rest =>
    if n < 0xD800 ∨ 0xE000 ≤ n then (join? rest).map (Char.ofNat n :: ·)
    else if 0xDC00 ≤ n then none
    else
      match rest with
      | .bits m :: rest =>
        if 0xDC00 ≤ m ∧ m < 0xE000 then
          (join? rest).map (Char.ofNat (0x10000 + (n - 0xD800) * 0x400 + (m - 0xDC00)) :: ·)
        else none
      | _ => none

/-- The token in front of characters that do not begin with space, and what follows it. -/
def token? : List Char → Option (Token × List Char)
  | [] => none
  | '[' :: rest => some (.openList, rest)
  | ']' :: rest => some (.closeList, rest)
  | '\x7b' :: rest => some (.openObject, rest)
  | '\x7d' :: rest => some (.closeObject, rest)
  | ':' :: rest => some (.colon, rest)
  | ',' :: rest => some (.comma, rest)
  | '"' :: rest => (pieces? rest).map fun (pieces, rest) =>
    (.string ((join? pieces).map String.ofList), rest)
  | 'n' :: 'u' :: 'l' :: 'l' :: rest => some (.scalar .null, rest)
  | 't' :: 'r' :: 'u' :: 'e' :: rest => some (.scalar (.bool true), rest)
  | 'f' :: 'a' :: 'l' :: 's' :: 'e' :: rest => some (.scalar (.bool false), rest)
  | cs => (number? cs).map fun (j, rest) => (.scalar j, rest)

/-- The tokens of text, at most as many as there are characters. -/
def tokens? (fuel : Nat) (cs : List Char) : Option (List Token) :=
  match fuel, cs.dropWhile isSpace with
  | _, [] => some []
  | 0, _ => none
  | fuel + 1, cs => do
    let (token, rest) ← token? cs
    let tokens ← tokens? fuel rest
    some (token :: tokens)

end RowFormula.Json
