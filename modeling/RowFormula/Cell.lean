import RowFormula.Time.Writing

/-! What a row stores under a field name, and the errors that a formula can leave there. -/
namespace RowFormula

open Time (Instant)

/-- Why a formula has no value. -/
inductive FormulaError where
  /-- A referenced field is not declared. -/
  | unknownField
  /-- The formula cannot be read, calls an unknown function, has a wrong number of
  arguments or lies on a reference cycle. -/
  | invalid
  | divisionByZero
  /-- An operand or argument has no reading of the kind that is needed. -/
  | wrongType
  deriving DecidableEq

/-- The text shown in place of a value. -/
def FormulaError.text : FormulaError → String
  | .unknownField => "#FIELD!"
  | .invalid => "#ERROR!"
  | .divisionByZero => "#DIV/0!"
  | .wrongType => "#VALUE!"

/-- A stored value, or the error of a formula field that has none. -/
inductive Cell where
  | null
  | bool (b : Bool)
  | number (x : Float)
  | text (s : String)
  | date (t : Instant)
  | error (e : FormulaError)
  deriving DecidableEq

namespace Cell

def isNull : Cell → Bool
  | null => true
  | _ => false

def error? : Cell → Option FormulaError
  | error e => some e
  | _ => none

/-- The name of the kind of value. -/
def kindName : Cell → String
  | null => "null"
  | bool _ => "boolean"
  | number _ => "number"
  | text _ => "text"
  | date _ => "date"
  | error _ => "error"

/-- The text of a stored value. A number keeps the sign of zero. -/
def display : Cell → String
  | null => ""
  | bool b => if b then "true" else "false"
  | number x => Number.plain.write x
  | text s => s
  | date t => t.iso
  | error e => e.text

/-- An optional text; none is null. -/
def ofText? : Option String → Cell
  | some s => text s
  | none => null

/-- An integer as the nearest number. -/
def ofInt (n : Int) : Cell := number (Number.ofInt n)

end Cell

end RowFormula
