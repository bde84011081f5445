import RowFormula.Text.Case

/-! The functions of formulas: their names, how many arguments they take and whether
they read the clock. What they compute is said with each family. -/
namespace RowFormula

inductive TextFunction where
  | concat | upper | lower | left | right | mid | len | trim | find | substitute | rept
  deriving DecidableEq

inductive MathFunction where
  | round | floor | ceiling | abs | mod | sum | min | max | average | value
  deriving DecidableEq

inductive ControlFunction where
  | choose | switch | blank
  deriving DecidableEq

inductive DateFunction where
  | dateAdd | dateDiff | dateFormat | year | month | day | now | today
  deriving DecidableEq

/-- A function that formulas can call. -/
inductive Function where
  | text (f : TextFunction)
  | math (f : MathFunction)
  | control (f : ControlFunction)
  | date (f : DateFunction)
  deriving DecidableEq

/-- How many arguments a call may have. -/
structure Arity where
  least : Nat
  /-- None where there is no upper bound. -/
  greatest : Option Nat
  deriving DecidableEq

def Arity.admits (arity : Arity) (count : Nat) : Bool :=
  decide (arity.least ≤ count) && arity.greatest.all (count ≤ ·)

def Arity.exactly (n : Nat) : Arity := ⟨n, some n⟩

def Arity.between (least greatest : Nat) : Arity := ⟨least, some greatest⟩

def Arity.atLeast (n : Nat) : Arity := ⟨n, none⟩

def TextFunction.signature : TextFunction → String × Arity
  | concat => ("CONCAT", .atLeast 0)
  | upper => ("UPPER", .exactly 1)
  | lower => ("LOWER", .exactly 1)
  | left => ("LEFT", .between 1 2)
  | right => ("RIGHT", .between 1 2)
  | mid => ("MID", .exactly 3)
  | len => ("LEN", .exactly 1)
  | trim => ("TRIM", .exactly 1)
  | find => ("FIND", .between 2 3)
  | substitute => ("SUBSTITUTE", .between 3 4)
  | rept => ("REPT", .exactly 2)

def MathFunction.signature : MathFunction → String × Arity
  | round => ("ROUND", .between 1 2)
  | floor => ("FLOOR", .between 1 2)
  | ceiling => ("CEILING", .between 1 2)
  | abs => ("ABS", .exactly 1)
  | mod => ("MOD", .exactly 2)
  | sum => ("SUM", .atLeast 1)
  | min => ("MIN", .atLeast 1)
  | max => ("MAX", .atLeast 1)
  | average => ("AVERAGE", .atLeast 1)
  | value => ("VALUE", .exactly 1)

def ControlFunction.signature : ControlFunction → String × Arity
  | choose => ("IF", .between 2 3)
  | switch => ("SWITCH", .atLeast 3)
  | blank => ("BLANK", .exactly 0)

def DateFunction.signature : DateFunction → String × Arity
  | dateAdd => ("DATEADD", .exactly 3)
  | dateDiff => ("DATETIME_DIFF", .between 2 3)
  | dateFormat => ("DATETIME_FORMAT", .between 1 2)
  | year => ("YEAR", .exactly 1)
  | month => ("MONTH", .exactly 1)
  | day => ("DAY", .exactly 1)
  | now => ("NOW", .exactly 0)
  | today => ("TODAY", .exactly 0)

namespace Function

def signature : Function → String × Arity
  | text f => f.signature
  | math f => f.signature
  | control f => f.signature
  | date f => f.signature

/-- The name, in upper case. -/
def name (f : Function) : String := f.signature.1

def arity (f : Function) : Arity := f.signature.2

/-- Whether the result depends on the clock. -/
def readsClock : Function → Bool
  | date .now | date .today => true
  | _ => false

/-- All functions. -/
def all : List Function :=
  ([.concat, .upper, .lower, .left, .right, .mid, .len, .trim, .find, .substitute,
    .rept] : List TextFunction).map text ++
  ([.round, .floor, .ceiling, .abs, .mod, .sum, .min, .max, .average,
    .value] : List MathFunction).map math ++
  ([.choose, .switch, .blank] : List ControlFunction).map control ++
  ([.dateAdd, .dateDiff, .dateFormat, .year, .month, .day, .now,
    .today] : List DateFunction).map date

theorem mem_all (f : Function) : f ∈ all := by
  rcases f with f | f | f | f <;> cases f <;> decide

/-- The function with exactly this name. -/
def named? (name : String) : Option Function := all.find? (·.name = name)

/-- The function with this name in any case. -/
def find? (name : String) : Option Function := (named? name).or (named? (Text.upper name))

end Function

end RowFormula
