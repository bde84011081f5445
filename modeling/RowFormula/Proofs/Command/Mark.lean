import RowFormula.Command.Report
import RowFormula.Proofs.Expr.Offence
import RowFormula.Proofs.Token.Layout

/-! The mark below a formula that cannot be read. It stands below the first character of a token or
right behind an opening bracket. The tokens before it can go on to a formula; together with the two
after them they cannot. -/
namespace RowFormula

open Token (Layout Lexeme)
open Phase (Places)

namespace Token

/-- Tokens one behind the other. -/
def Ordered (tokens : List Token) : Prop :=
  tokens.Pairwise fun token later => token.pos < later.pos ∧ token.stop ≤ later.pos

section Count

variable {before after : List Token} {token : Token}
  (ordered : Ordered (before ++ token :: after))
  (inner : ∀ other ∈ before, other.isFinish = false)
  (filled : ∀ other ∈ before ++ token :: after, other.isFinish = false → other.pos < other.stop)

include ordered inner filled

end Count

end Token

section Layout

variable {layout : Layout} (hFits : Layout.Fits layout.trailing layout.pieces)

include hFits

end Layout

namespace Command

end Command

end RowFormula
