import RowFormula.Json.Reader
import RowFormula.Row
import RowFormula.Text.Blank

/-! Rows as JSON objects. Several rows are one list or one row a line; both forms give the
rows in the order of the text. -/
namespace RowFormula

/-- The cell for a value. A list or object is kept as its compact text. -/
def Cell.ofJson : Json → Cell
  | .null | .unreadable => .null
  | .bool b => .bool b
  | .number n => .number n.toFloat
  | .string s => .text s
  | j => .text j.normalize.write

/-- The value of a cell. An infinite number and NaN have none, an error is its text. -/
def Cell.toJson : Cell → Json
  | .null => .null
  | .bool b => .bool b
  | .number x => if Number.isFinite x then .number (.double x) else .null
  | .text s => .string s
  | .date t => .string t.iso
  | .error e => .string e.text

/-- Why text holds no rows. -/
inductive RowTextError where
  | notObject
  | notList
  | invalidLine (line : Nat)
  | lineNotObject (line : Nat) (j : Json)

def RowTextError.message : RowTextError → String
  | notObject => "Row must be a JSON object"
  | notList => "Invalid JSON array of rows"
  | invalidLine line => "Invalid JSON on line " ++ toString line
  | lineNotObject line j =>
    "Line " ++ toString line ++ " is not a JSON object: " ++ j.normalize.write

namespace Row

def ofMembers (members : List (String × Json)) : Row :=
  ofList (members.map fun member => (member.1, Cell.ofJson member.2))

def ofJson? : Json → Option Row
  | .object members => some (ofMembers members)
  | _ => none

def toJson (row : Row) : Json := .object (row.entries.map fun entry => (entry.1, entry.2.toJson))

/-- The row as one line of text. -/
def line (row : Row) : String := row.toJson.write ++ "\n"

/-- The row that text holds. -/
def read (text : String) : Except RowTextError Row :=
  match (Json.readStrict? text).bind ofJson? with
  | some row => .ok row
  | none => .error .notObject

/-- The row in a line of text. -/
def readLine (number : Nat) (line : List Char) : Except RowTextError Row :=
  match Json.readStrict? (String.ofList line) with
  | none => .error (.invalidLine number)
  | some j =>
    match ofJson? j with
    | some row => .ok row
    | none => .error (.lineNotObject number j)

/-- The rows in lines of text, the first of which has a given number. Blank lines hold
none. -/
def readLines (number : Nat) : List (List Char) → Except RowTextError (List Row)
  | [] => .ok []
  | line :: lines =>
    if line.all Text.isBlank then readLines (number + 1) lines
    else
      match readLine number line with
      | .error e => .error e
      | .ok row => (readLines (number + 1) lines).map (row :: ·)

/-- The rows in the text of a list. -/
def readList (text : String) : Except RowTextError (List Row) :=
  match Json.readStrict? text with
  | some (.array items) =>
    match items.mapM ofJson? with
    | some rows => .ok rows
    | none => .error .notList
  | _ => .error .notList

/-- The rows that text holds. Text that begins with a bracket is a list. -/
def readAll (text : String) : Except RowTextError (List Row) :=
  let start := Text.trimStart text
  if start.toList.head? = some '[' then readList start
  else readLines 1 (text.toList.splitOn '\n')

end Row

end RowFormula
