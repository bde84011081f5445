import RowFormula.Value

/-! Arguments of functions. A missing argument that is needed makes the call invalid; one
that cannot be read as needed has the wrong type. -/
namespace RowFormula

/-- The outcome of evaluation. -/
abbrev Outcome (α : Type) := Except FormulaError α

namespace Argument

/-- The reading of a value as a number. -/
def toNumber (value : Value) : Outcome Float :=
  match value.number? with
  | some x => .ok x
  | none => .error .wrongType

/-- A number that is needed. -/
def number (args : List Value) (index : Nat) : Outcome Float :=
  match args[index]? with
  | some value => toNumber value
  | none => .error .invalid

/-- A number that may be left out. -/
def numberOr (default : Float) (args : List Value) (index : Nat) : Outcome Float :=
  match args[index]? with
  | some value => toNumber value
  | none => .ok default

/-- Text; a missing argument is empty. -/
def text (args : List Value) (index : Nat) : String :=
  match args[index]? with
  | some value => value.toText
  | none => ""

/-- The characters of text. -/
def chars (args : List Value) (index : Nat) : List Char := (text args index).toList

/-- An instant that is needed. -/
def date (args : List Value) (index : Nat) : Outcome Time.Instant :=
  match args[index]? with
  | some value =>
    match value.date? with
    | some t => .ok t
    | none => .error .wrongType
  | none => .error .invalid

/-- All arguments as numbers. -/
def numbers (args : List Value) : Outcome (List Float) := args.mapM toNumber

/-- The whole part as a count of characters or times, which is not negative. -/
def toCount (x : Float) : Outcome Nat :=
  let n := Number.clamp (-1) (Number.twoTo 64 - 1) x
  if n < 0 then .error .wrongType else .ok n.toNat

/-- The whole part as a place counted from one. -/
def toPlace (x : Float) : Outcome Nat :=
  let n := Number.clamp 0 (Number.twoTo 64 - 1) x
  if n < 1 then .error .wrongType else .ok n.toNat

end Argument

end RowFormula
