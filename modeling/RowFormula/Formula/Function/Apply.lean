import RowFormula.Formula.Function.Text
import RowFormula.Formula.Function.Math
import RowFormula.Formula.Function.Control
import RowFormula.Formula.Function.Date

/-! The value of any function. -/
namespace RowFormula.Function

/-- The value of a function on evaluated arguments, under a clock. How many arguments
there are is not checked here. -/
def apply (now : Time.Instant) (f : Function) (args : List Value) : Outcome Value :=
  match f with
  | text f => f.apply args
  | math f => f.apply args
  | control f => f.apply args
  | date f => f.apply now args

/-- The value of a call: the number of arguments is checked first. -/
def call (now : Time.Instant) (f : Function) (args : List Value) : Outcome Value :=
  if f.arity.admits args.length then f.apply now args else .error .invalid

end RowFormula.Function
