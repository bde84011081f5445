import RowFormula.Text.Blank
import RowFormula.Text.Letter
import RowFormula.Text.Case
import RowFormula.Text.Quoted
import RowFormula.Text.Search
import RowFormula.Number.Power
import RowFormula.Number.Exact
import RowFormula.Number.Nearest
import RowFormula.Number.Whole
import RowFormula.Number.Shortest
import RowFormula.Number.Text
import RowFormula.Number.Reading
import RowFormula.Number.FixedPoint
import RowFormula.Time.Civil
import RowFormula.Time.Instant
import RowFormula.Time.Writing
import RowFormula.Time.Reading
import RowFormula.Time.Unit
import RowFormula.Cell
import RowFormula.Row
import RowFormula.Field
import RowFormula.Field.Catalog
import RowFormula.Value
import RowFormula.Formula.Operator
import RowFormula.Formula.SyntaxError
import RowFormula.Formula.Function
import RowFormula.Formula.Token
import RowFormula.Formula.Token.Lexer
import RowFormula.Formula.Expr
import RowFormula.Formula.Expr.Parser
import RowFormula.Formula.Expr.Outline
import RowFormula.Formula.Compare
import RowFormula.Formula.Function.Argument
import RowFormula.Formula.Function.Text
import RowFormula.Formula.Function.Math
import RowFormula.Formula.Function.Control
import RowFormula.Formula.Function.Date
import RowFormula.Formula.Function.Apply
import RowFormula.Formula.Eval
import RowFormula.Entries
import RowFormula.Graph
import RowFormula.Plan
import RowFormula.Pass
import RowFormula.Json
import RowFormula.Json.Token
import RowFormula.Json.Reader
import RowFormula.Row.Json
import RowFormula.Row.Fields
import RowFormula.Field.Json
import RowFormula.Command
import RowFormula.Command.Arguments
import RowFormula.Command.Report
import RowFormula.Command.Run
import RowFormula.Main
import RowFormula.Proofs.Formula.References
import RowFormula.Proofs.Formula.Failure
import RowFormula.Proofs.Token.Scanner
import RowFormula.Proofs.Token.Lexeme
import RowFormula.Proofs.Token.Layout
import RowFormula.Proofs.Token.Segment
import RowFormula.Proofs.Expr.Grammar
import RowFormula.Proofs.Expr.Stack
import RowFormula.Proofs.Expr.Reading
import RowFormula.Proofs.Expr.Acceptance
import RowFormula.Proofs.Expr.Places
import RowFormula.Proofs.Expr.Respacing
import RowFormula.Proofs.Expr.Composition
import RowFormula.Proofs.Expr.Offence
import RowFormula.Proofs.Command.Mark
import RowFormula.Proofs.Field.Names
import RowFormula.Proofs.Field.Lookup
import RowFormula.Proofs.Graph.Cycle
import RowFormula.Proofs.Graph.Order
import RowFormula.Proofs.Field.Dependency
import RowFormula.Proofs.Plan.Dependency
import RowFormula.Proofs.Pass.Run
import RowFormula.Proofs.Pass.Consistency
import RowFormula.Proofs.Pass.Locality
import RowFormula.Proofs.Pass.Inputs
import RowFormula.Proofs.Pass.Isolation
import RowFormula.Proofs.Pass.Orders
import RowFormula.Proofs.Pass.Declared
import RowFormula.Proofs.Token.Rejection
import RowFormula.Proofs.Formula.ErrorPlace
import RowFormula.Proofs.Json.Number
import RowFormula.Proofs.Json.Lexeme
import RowFormula.Proofs.Json.RoundTrip
import RowFormula.Proofs.Json.Line
import RowFormula.Proofs.Row.RoundTrip
import RowFormula.Proofs.Graph.Search
import RowFormula.Proofs.Formula.Propagation
import RowFormula.Proofs.Number.Order
import RowFormula.Proofs.Number.Reading
import RowFormula.Proofs.Time.Reading
import RowFormula.Proofs.Formula.Comparison
import RowFormula.Proofs.Formula.Branching
import RowFormula.Proofs.Formula.ShortCircuit
import RowFormula.Proofs.Pass.Condition
import RowFormula.Proofs.Number.Rounding
import RowFormula.Proofs.Number.Shortest
import RowFormula.Proofs.Number.ZeroSign
import RowFormula.Proofs.Number.Written
import RowFormula.Proofs.Formula.StoredNumber
import RowFormula.Proofs.Time.Civil
import RowFormula.Proofs.Time.Months
import RowFormula.Proofs.Number.Packing
import RowFormula.Proofs.Number.Integer
import RowFormula.Proofs.Time.Elapsed
import RowFormula.Proofs.Formula.DateSteps
import RowFormula.Proofs.Time.Pattern
import RowFormula.Proofs.Time.Writing
import RowFormula.Proofs.Formula.StoredDate
import RowFormula.Proofs.Formula.EpochMillis
import RowFormula.Proofs.Token.Literal
import RowFormula.Proofs.Text.Occurrence
import RowFormula.Proofs.Number.Truncation
import RowFormula.Proofs.Formula.Substitution
import RowFormula.Proofs.Formula.FoundPlace
import RowFormula.Proofs.Command.Warning
import RowFormula.Proofs.Text.Trimming
import RowFormula.Proofs.Formula.OwnName
import RowFormula.Proofs.Pass.Tally
import RowFormula.Proofs.Field.Schema
import RowFormula.Proofs.Plan.Slots
import RowFormula.Proofs.Graph.Recording
import RowFormula.Proofs.Graph.Ranking
