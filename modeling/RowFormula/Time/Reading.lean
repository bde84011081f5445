import RowFormula.Time.Instant
import RowFormula.Number.Reading
import RowFormula.Text.Blank

/-! Instants read from text. The standard form has an offset and a fixed number of digits
everywhere. The plain layouts have none: there numbers may be shorter and may have
blanks in front, and the time is universal time. -/
namespace RowFormula.Time

open RowFormula.Number (digitsValue tenTo)
open RowFormula.Text (dropBlanks trimChars)

/-- A date and a time of day as written, before any offset. -/
structure Reading where
  year : Int
  month : Nat
  day : Nat
  hour : Nat
  minute : Nat
  second : Nat
  nanos : Nat

/-- The instant of a reading whose clock runs ahead by some minutes. Second 60 is
a leap second, whatever the minute. -/
def Reading.toInstant? (r : Reading) (offset : Int) : Option Instant :=
  let date : Civil := ⟨r.year, r.month, r.day⟩
  if date.isValid && r.hour ≤ 23 && r.minute ≤ 59 && r.second ≤ 60 then
    let second := min r.second 59
    let nanos := if r.second = 60 then r.nanos + nanosPerSecond else r.nanos
    let ofDay : Int := ((r.hour * 60 + r.minute) * 60 + second : Nat)
    Instant.ofEpochSecond? (date.toDay * 86400 + ofDay - offset * 60) nanos
  else none

/-- A character that must stand in front. -/
def expectChar? (c : Char) : List Char → Option (List Char)
  | [] => none
  | first :: rest => if first = c then some rest else none

/-- A number of exactly so many digits. -/
def fixedDigits? (width : Nat) (cs : List Char) : Option (Nat × List Char) :=
  let digits := cs.take width
  if digits.length = width ∧ digits.all Char.isDigit then
    some (digitsValue digits, cs.drop width)
  else none

/-- A number of at least one digit and at most so many. -/
def shortDigits? (width : Nat) (cs : List Char) : Option (Nat × List Char) :=
  let digits := (cs.take width).takeWhile Char.isDigit
  if digits = [] then none else some (digitsValue digits, cs.drop digits.length)

/-- A point with digits after it, as nanoseconds. Digits beyond the ninth are dropped;
without a point there are none. -/
def fraction? : List Char → Option (Nat × List Char)
  | '.' :: rest =>
    let digits := rest.takeWhile Char.isDigit
    if digits = [] then none
    else
      let kept := digits.take 9
      some (digitsValue kept * tenTo (9 - kept.length), rest.dropWhile Char.isDigit)
  | cs => some (0, cs)

/-- The minutes by which a clock runs ahead, up to the end of the text. -/
def offset? : List Char → Option Int
  | ['Z'] | ['z'] => some 0
  | sign :: rest => do
    let negative ←
      if sign = '+' then some false
      else if sign = '-' ∨ sign = '−' then some true
      else none
    let (hours, rest) ← fixedDigits? 2 rest
    let rest ← expectChar? ':' rest
    let (minutes, rest) ← fixedDigits? 2 rest
    if rest = [] ∧ hours ≤ 23 ∧ minutes ≤ 59 then
      let total : Int := (hours * 60 + minutes : Nat)
      some (if negative then -total else total)
    else none
  | [] => none

/-- The standard form with its offset. -/
def readStandard? (cs : List Char) : Option Instant := do
  let (year, cs) ← fixedDigits? 4 cs
  let cs ← expectChar? '-' cs
  let (month, cs) ← fixedDigits? 2 cs
  let cs ← expectChar? '-' cs
  let (day, cs) ← fixedDigits? 2 cs
  let cs ← (expectChar? 'T' cs).or ((expectChar? 't' cs).or (expectChar? ' ' cs))
  let (hour, cs) ← fixedDigits? 2 cs
  let cs ← expectChar? ':' cs
  let (minute, cs) ← fixedDigits? 2 cs
  let cs ← expectChar? ':' cs
  let (second, cs) ← fixedDigits? 2 cs
  let (nanos, cs) ← fraction? cs
  let offset ← offset? cs
  Reading.toInstant? ⟨year, month, day, hour, minute, second, nanos⟩ offset

/-- A year: four digits at most, any number of them after a sign. -/
def layoutYear? (cs : List Char) : Option (Int × List Char) :=
  match dropBlanks cs with
  | '-' :: rest => (shortDigits? rest.length rest).map fun (n, cs) => (-(n : Int), cs)
  | '+' :: rest => (shortDigits? rest.length rest).map fun (n, cs) => ((n : Int), cs)
  | cs => (shortDigits? 4 cs).map fun (n, cs) => ((n : Int), cs)

/-- One or two digits, blanks in front not counted. -/
def layoutNumber? (cs : List Char) : Option (Nat × List Char) := shortDigits? 2 (dropBlanks cs)

/-- The date of a plain layout. -/
def layoutDate? (cs : List Char) : Option (Civil × List Char) := do
  let (year, cs) ← layoutYear? cs
  let cs ← expectChar? '-' cs
  let (month, cs) ← layoutNumber? cs
  let cs ← expectChar? '-' cs
  let (day, cs) ← layoutNumber? cs
  some (⟨year, month, day⟩, cs)

/-- What stands between the date and the time of a plain layout. -/
inductive Divider where
  | letterT
  /-- Any number of blanks, also none. -/
  | blanks

def Divider.skip? : Divider → List Char → Option (List Char)
  | .letterT, cs => expectChar? 'T' cs
  | .blanks, cs => some (dropBlanks cs)

/-- A plain layout with a time of day, which may or may not have seconds. -/
def readLayout? (divider : Divider) (withSeconds : Bool) (cs : List Char) : Option Instant := do
  let (date, cs) ← layoutDate? cs
  let cs ← divider.skip? cs
  let (hour, cs) ← layoutNumber? cs
  let cs ← expectChar? ':' cs
  let (minute, cs) ← layoutNumber? cs
  let (second, nanos, cs) ←
    if withSeconds then do
      let cs ← expectChar? ':' cs
      let (second, cs) ← layoutNumber? cs
      let (nanos, cs) ← fraction? cs
      some (second, nanos, cs)
    else some (0, 0, cs)
  if cs = [] then
    Reading.toInstant? ⟨date.year, date.month, date.day, hour, minute, second, nanos⟩ 0
  else none

/-- A date without a time is its midnight. -/
def readDate? (cs : List Char) : Option Instant := do
  let (date, cs) ← layoutDate? cs
  if cs = [] then Reading.toInstant? ⟨date.year, date.month, date.day, 0, 0, 0, 0⟩ 0 else none

/-- The instant that text stands for, blanks around it not counted. -/
def readChars? (cs : List Char) : Option Instant :=
  let cs := trimChars cs
  if cs = [] then none
  else
    (readStandard? cs).or <| (readLayout? .letterT true cs).or <|
      (readLayout? .letterT false cs).or <| (readLayout? .blanks true cs).or <|
      (readLayout? .blanks false cs).or <| readDate? cs

def Instant.read? (text : String) : Option Instant := readChars? text.toList

end RowFormula.Time
