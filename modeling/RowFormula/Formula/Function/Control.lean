import RowFormula.Formula.Function
import RowFormula.Formula.Function.Argument
import RowFormula.Formula.Compare

/-! The functions that choose among their arguments. All arguments have been evaluated
before; an error in one that is not chosen is an error all the same. -/
namespace RowFormula.ControlFunction

/-- The result after the first pattern that equals the subject. A last argument without
partner is the default. -/
def select (subject : Value) : List Value → Value
  | [] => .null
  | [default] => default
  | pattern :: result :: rest =>
    if Value.compares .equal subject pattern then result else select subject rest

/-- The value of a control function. -/
def apply (f : ControlFunction) (args : List Value) : Outcome Value :=
  match f with
  | choose =>
    let holds := (args[0]?).any Value.isTruthy
    .ok ((if holds then args[1]? else args[2]?).getD .null)
  | switch =>
    match args with
    | [] => .ok .null
    | subject :: rest => .ok (select subject rest)
  | blank => .ok .null

end RowFormula.ControlFunction
