import RowFormula.Row
import RowFormula.Field

/-! The fields of a row that has no declared ones. -/
namespace RowFormula

/-- The type that a cell suggests. -/
def FieldType.ofCell : Cell → FieldType
  | .number _ => .number
  | .bool _ => .boolean
  | .date _ => .datetime
  | .null | .text _ | .error _ => .text

/-- One field for each name in the row, in the order of the names. -/
def Row.suggestedFields (row : Row) : List Field :=
  row.entries.map fun entry => { name := entry.1, type := .ofCell entry.2 }

end RowFormula
