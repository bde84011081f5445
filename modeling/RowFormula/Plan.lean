import RowFormula.Graph
import RowFormula.Formula.Expr.Parser

/-! Plans: the formula fields of a table, compiled and put into the order in which they
are computed. -/
namespace RowFormula

/-- What formula text compiles to. -/
inductive Compiled where
  /-- No text, or blanks alone. -/
  | blank
  /-- Text that is no formula. -/
  | invalid
  | parsed (e : Expr)

def Compiled.ofText (text : Option String) : Compiled :=
  let text := text.getD ""
  if Text.isAllBlank text then .blank
  else
    match Expr.parse text with
    | .ok e => .parsed e
    | .error _ => .invalid

def Compiled.expr? : Compiled → Option Expr
  | .parsed e => some e
  | _ => none

/-- One formula field of a plan. -/
structure Step where
  name : String
  formula : Compiled
  /-- The field lies on a reference cycle. Only asked for in dependency order. -/
  circular : Bool := false

def Step.ofField (field : Field) : Step where
  name := field.name
  formula := .ofText field.formula

def Step.key (step : Step) : String := Field.key step.name

/-- The order in which formula fields are computed. -/
inductive PassOrder where
  /-- As the fields are given. A formula that reads a later one sees what is stored there. -/
  | declared
  /-- Each field after the fields that it reads. -/
  | dependency
  deriving DecidableEq

/-- The graph of the steps whose text is a formula. -/
def stepGraph (steps : List Step) : Graph :=
  Graph.ofFormulas (steps.filterMap fun step => step.formula.expr?.map fun e => (step.name, e))

/-- The steps with one key, marked when the key lies on a cycle. -/
def stepsOf (graph : Graph) (steps : List Step) (key : String) : List Step :=
  (steps.filter (·.key = key)).map fun step => { step with circular := graph.isCircular key }

/-- The steps in dependency order. Steps of one key stay together in the order given. -/
def orderSteps (steps : List Step) : List Step :=
  let graph := stepGraph steps
  (graph.order (steps.map Step.key)).flatMap (stepsOf graph steps)

structure Plan where
  /-- The fields that formulas can name. -/
  fields : List Field
  steps : List Step

namespace Plan

/-- The plan for some formula fields of a table. -/
def make (formulaFields fields : List Field) (order : PassOrder) : Plan :=
  let steps := formulaFields.map Step.ofField
  ⟨fields, match order with
    | .declared => steps
    | .dependency => orderSteps steps⟩

/-- The plan for all formula fields of a table. -/
def ofFields (fields : List Field) (order : PassOrder) : Plan :=
  make (fields.filter Field.isFormula) fields order

def size (plan : Plan) : Nat := plan.steps.length

/-- The names of the formula fields in the order of their computation. -/
def names (plan : Plan) : List String := plan.steps.map Step.name

end Plan

end RowFormula
