import RowFormula.Plan
import RowFormula.Formula.Eval

/-! Passes: all formula fields of a row computed one after another. Each formula is evaluated
against the row as it stands at its turn, and an error in one field stops no other. -/
namespace RowFormula

/-- What happened in a pass. -/
structure Tally where
  formulas : Nat := 0
  /-- Formulas that were evaluated. -/
  calculated : Nat := 0
  /-- Fields that got an error. -/
  errors : Nat := 0
  blank : Nat := 0
  circular : Nat := 0
  deriving DecidableEq

structure Computed where
  row : Row
  tally : Tally
  deriving DecidableEq

/-- The cell that stores an outcome. -/
def Outcome.toCell : Outcome Value → Cell
  | .ok value => value.toCell
  | .error e => .error e

/-- The cell that a step computes. A formula on a cycle is not evaluated. -/
def Step.compute (step : Step) (context : Context) : Cell :=
  match step.formula with
  | .blank => .null
  | .invalid => .error .invalid
  | .parsed e => if step.circular then .error .invalid else Outcome.toCell (e.eval context)

/-- The tally after one more step that computed a cell. -/
def Tally.add (tally : Tally) (step : Step) (cell : Cell) : Tally :=
  let tally :=
    match step.formula with
    | .blank => { tally with blank := tally.blank + 1 }
    | .invalid => tally
    | .parsed _ =>
      if step.circular then { tally with circular := tally.circular + 1 }
      else { tally with calculated := tally.calculated + 1 }
  if cell.error?.isSome then { tally with errors := tally.errors + 1 } else tally

/-- The row and the tally after one more step. -/
def Computed.next (fields : List Field) (now : Time.Instant) (computed : Computed)
    (step : Step) : Computed :=
  let cell := step.compute ⟨computed.row, fields, now⟩
  ⟨computed.row.insert step.name cell, computed.tally.add step cell⟩

/-- The row with all its formula fields computed. -/
def Plan.compute (plan : Plan) (now : Time.Instant) (row : Row) : Computed :=
  plan.steps.foldl (Computed.next plan.fields now) ⟨row, { formulas := plan.size }⟩

/-- The row with some formula fields computed in the order given. -/
def computeFields (formulaFields fields : List Field) (now : Time.Instant) (row : Row) : Row :=
  ((Plan.make formulaFields fields .declared).compute now row).row

end RowFormula
