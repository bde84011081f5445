import RowFormula.Cell
import RowFormula.Field
import RowFormula.Time.Reading

/-! Values of formulas, and how a value of one kind is read as another. -/
namespace RowFormula

open Time (Instant)

/-- The result of evaluation. Errors are not values. -/
inductive Value where
  | null
  | bool (b : Bool)
  | number (x : Float)
  | text (s : String)
  | date (t : Instant)
  deriving DecidableEq

namespace Value

def isNull : Value → Bool
  | null => true
  | _ => false

def isNumber : Value → Bool
  | number _ => true
  | _ => false

/-- The number that text stands for, blanks around it not counted. -/
def textNumber? (s : String) : Option Float :=
  Number.readDecimal? (Text.trimChars s.toList)

/-- The reading as a number in arithmetic: null and blank text are zero, truth values are
zero and one, dates are milliseconds since the epoch. NaN and other text have none. -/
def number? : Value → Option Float
  | null => some 0
  | bool b => some (if b then 1 else 0)
  | number x => if Number.isNaN x then none else some x
  | text s => if Text.isAllBlank s then some 0 else textNumber? s
  | date t => some (Number.ofInt t.epochMillis)

/-- The reading as a number of what is a number or is written as one. -/
def cleanNumber? : Value → Option Float
  | number x => if Number.isNaN x then none else some x
  | text s => textNumber? s
  | _ => none

/-- The reading as an instant of what is one or is written as one. -/
def date? : Value → Option Instant
  | date t => some t
  | text s => Instant.read? s
  | _ => none

/-- Null, false, zero, NaN and the empty text are falsy, all else is truthy. -/
def isTruthy : Value → Bool
  | null => false
  | bool b => b
  | number x => !(Number.isZero x || Number.isNaN x)
  | text s => s ≠ ""
  | date _ => true

/-- The reading as text, which every value has. -/
def toText : Value → String
  | null => ""
  | bool b => if b then "true" else "false"
  | number x => Number.text x
  | text s => s
  | date t => t.iso

/-- The cell that stores a value. -/
def toCell : Value → Cell
  | null => .null
  | bool b => .bool b
  | number x => .number x
  | text s => .text s
  | date t => .date t

end Value

/-- The value that a cell stores. A stored error counts as null here. -/
def Cell.toValue : Cell → Value
  | .null | .error _ => .null
  | .bool b => .bool b
  | .number x => .number x
  | .text s => .text s
  | .date t => .date t

/-- The instant some milliseconds after the epoch, the fraction cut off. -/
def instantOfMillis? (x : Float) : Option Instant :=
  if Number.isFinite x then Instant.ofEpochMillis? (Number.toInt64 x) else none

/-- The value of a cell as the type of its field reads it. What cannot be read as a number
is zero, what cannot be read as an instant is null. -/
def Cell.readAs (type : FieldType) (cell : Cell) : Value :=
  match cell with
  | .null | .error _ => .null
  | stored =>
    let value := stored.toValue
    if type.isNumeric then .number (value.number?.getD 0)
    else if type.isBoolean then .bool value.isTruthy
    else if type.isDate then
      let date? :=
        match value with
        | .number x => instantOfMillis? x
        | other => other.date?
      match date? with
      | some t => .date t
      | none => .null
    else .text value.toText

end RowFormula
