import RowFormula.Command.Report
import RowFormula.Command
import RowFormula.Field.Catalog
import RowFormula.Field.Json
import RowFormula.Formula.Expr.Outline
import RowFormula.Formula.Token.Lexer
import RowFormula.Pass
import RowFormula.Row.Fields
import RowFormula.Row.Json

/-! What each command does. Everything it reads is given beforehand, so that the same sources
give the same report. -/
namespace RowFormula.Command

open Time (Instant)

/-- What a command reads. -/
structure Sources where
  /-- The text of a file, or why it cannot be read. -/
  file : String → Except String String
  input : Except String String
  /-- The time at which the command runs. -/
  now : Instant

/-- Why a file that does not exist cannot be read. -/
def noSuchFile : String := "No such file or directory (os error 2)"

/-- Text, or the failure to read it. -/
def required (message : String) : Except String String → Except Failure String
  | .ok text => .ok text
  | .error cause => .error { message, causes := [cause] }

/-- The tree of a formula. -/
def expression (formula : String) : Except Failure Expr :=
  match Expr.parse formula with
  | .ok e => .ok e
  | .error e => .error (.ofSyntax formula e)

/-- The catalog that a schema file declares. -/
def catalog (sources : Sources) (path : String) : Except Failure Catalog := do
  let text ← required ("Failed to read schema '" ++ path ++ "'") (sources.file path)
  match Field.readSchema? text with
  | none =>
    .error {
      message := "Failed to load schema '" ++ path ++ "'", causes := ["Invalid schema JSON"] }
  | some fields =>
    match Catalog.ofFields fields with
    | .ok catalog => .ok catalog
    | .error e =>
      .error { message := "Invalid field catalog in '" ++ path ++ "'", causes := [e.message] }

/-- The time that a command is asked to run at, or the time at which it runs. -/
def instant (sources : Sources) : Option String → Except Failure Instant
  | none => .ok sources.now
  | some text =>
    match Instant.read? text with
    | some t => .ok t
    | none => .error { message := "Invalid --now value '" ++ text ++ "'" }

/-- Rows, or the failure to read them from text. -/
def readable {α : Type} (result : Except RowTextError α) : Except Failure α :=
  result.mapError fun e => { message := e.message }

/-- Text with blanks in front up to a width. -/
def padLeft (width : Nat) (s : String) : String :=
  String.ofList (blanks (width - s.length)) ++ s

/-- Text with blanks behind up to a width. -/
def padRight (width : Nat) (s : String) : String :=
  s ++ String.ofList (blanks (width - s.length))

/-- A token as the listing shows it. -/
def tokenLine (token : Token) : String :=
  padLeft 4 (toString token.pos) ++ "  " ++ padRight 16 token.kind.label ++ " " ++ token.text ++
    "\n"

def listTokens (formula : String) : Except Failure Success :=
  match Token.lex formula with
  | .ok list => .ok { output := String.join (list.map tokenLine) }
  | .error e => .error (.ofSyntax formula e)

def outlineTree (formula : String) : Except Failure Success := do
  let e ← expression formula
  return { output := e.outline }

/-- The warning about a name that the catalog does not have. -/
def missingNote (catalog : Catalog) (name : String) : String :=
  match catalog.require name with
  | .ok _ => ""
  | .error e =>
    "warning: " ++ e.message ++ "; the reference evaluates to " ++
      FormulaError.unknownField.text ++ "\n"

/-- The note about a formula that has another value at another time. -/
def clockNote (e : Expr) : String :=
  if e.readsClock then "note: the result depends on the current time (NOW/TODAY)\n" else ""

def checkFormula (sources : Sources) (formula : String) (schema : Option String) :
    Except Failure Success := do
  let e ← expression formula
  let warnings ←
    match schema with
    | none => .ok ""
    | some path =>
      (catalog sources path).map fun catalog =>
        String.join (e.fieldReferences.map (missingNote catalog))
  return { output := "ok\n", notes := warnings ++ clockNote e }

def evalRow (sources : Sources) (formula : String) (schema : Option String) (row : String)
    (clock : Option String) : Except Failure Success := do
  let row ← readable (Row.read row)
  let fields ←
    match schema with
    | none => .ok row.suggestedFields
    | some path => (catalog sources path).map (·.fields)
  let now ← instant sources clock
  return { output := (evalFormula ⟨row, fields, now⟩ formula).text ++ "\n" }

/-- The rows to compute. -/
def inputRows (sources : Sources) (path : Option String) : Except Failure (List Row) := do
  let text ←
    match path.filter (· ≠ "-") with
    | some path => required ("Failed to read rows '" ++ path ++ "'") (sources.file path)
    | none => required "Failed to read rows from stdin" sources.input
  readable (Row.readAll text)

/-- The tally of several rows. The fields on cycles are the same in every row and are not
added up. -/
def total (tallies : List Tally) : Tally :=
  tallies.foldl (fun sum tally =>
    { formulas := tally.formulas
      calculated := sum.calculated + tally.calculated
      errors := sum.errors + tally.errors
      blank := sum.blank + tally.blank
      circular := tally.circular }) {}

def statsLine (tallies : List Tally) : String :=
  let sum := total tallies
  "Computed " ++ toString tallies.length ++ " rows: " ++ toString sum.calculated ++
    " formulas evaluated, " ++ toString sum.errors ++ " errors, " ++ toString sum.blank ++
    " blank, " ++ toString sum.circular ++ " circular fields\n"

def computeRows (sources : Sources) (schema : String) (rows : Option String)
    (order : PassOrder) (clock : Option String) (stats : Bool) : Except Failure Success := do
  let catalog ← catalog sources schema
  let rows ← inputRows sources rows
  let now ← instant sources clock
  let plan := Plan.ofFields catalog.fields order
  let computed := rows.map (plan.compute now)
  return {
    output := String.join (computed.map (·.row.line))
    notes := if stats then statsLine (computed.map (·.tally)) else "" }

/-- What a command comes to. -/
def outcome (sources : Sources) : Command → Except Failure Success
  | tokens formula => listTokens formula
  | parse formula => outlineTree formula
  | check formula schema => checkFormula sources formula schema
  | eval formula schema row clock => evalRow sources formula schema row clock
  | compute schema rows order clock stats => computeRows sources schema rows order clock stats

/-- The report of a command. -/
def run (sources : Sources) (command : Command) : Report := .of (command.outcome sources)

end RowFormula.Command
