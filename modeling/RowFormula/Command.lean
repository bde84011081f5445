import RowFormula.Plan

/-! What the command line can ask for. -/
namespace RowFormula

inductive Command where
  /-- List the tokens of a formula. -/
  | tokens (formula : String)
  /-- Outline the tree of a formula. -/
  | parse (formula : String)
  /-- Accept or refuse a formula, and name the fields that a schema does not declare. -/
  | check (formula : String) (schema : Option String)
  /-- Evaluate a formula against one row. Without a schema the row suggests the fields. -/
  | eval (formula : String) (schema : Option String) (row : String) (clock : Option String)
  /-- Compute the formula fields of rows. -/
  | compute (schema : String) (rows : Option String) (order : PassOrder)
    (clock : Option String) (stats : Bool)
  deriving DecidableEq

namespace Command

/-- The files that a command reads. -/
def files : Command → List String
  | tokens _ | parse _ => []
  | check _ schema => schema.toList
  | eval _ schema _ _ => schema.toList
  | compute schema rows _ _ _ => schema :: (rows.filter (· ≠ "-")).toList

/-- The rows to compute come from standard input: no file is named, or only a dash. -/
def readsInput : Command → Bool
  | compute _ rows _ _ _ => (rows.filter (· ≠ "-")).isNone
  | _ => false

end Command

end RowFormula
