import RowFormula.Formula.SyntaxError

/-! What a command prints. A command that fails prints no output, only messages: its notes,
what failed, and the causes. -/
namespace RowFormula.Command

structure Success where
  output : String
  /-- Messages beside the output. -/
  notes : String := ""
  deriving DecidableEq

structure Failure where
  notes : String := ""
  message : String
  /-- Why it failed, each cause after what it caused. -/
  causes : List String := []
  deriving DecidableEq

structure Report where
  status : UInt8
  output : String
  messages : String
  deriving DecidableEq

/-- Text with some indent before every line after the first. -/
def hanging (indent : List Char) (text : String) : String :=
  String.ofList (text.toList.flatMap fun c => if c = '\n' then '\n' :: indent else [c])

def blanks (n : Nat) : List Char := List.replicate n ' '

/-- A cause that stands alone. -/
def soleCause (cause : String) : String :=
  String.ofList (blanks 4) ++ hanging (blanks 4) cause ++ "\n"

/-- One of several causes. -/
def numberedCause (cause : String × Nat) : String :=
  let number := toString cause.2
  String.ofList (blanks (5 - number.length)) ++ number ++ ": " ++
    hanging (blanks 7) cause.1 ++ "\n"

def causesText : List String → String
  | [] => ""
  | [cause] => "\nCaused by:\n" ++ soleCause cause
  | causes => "\nCaused by:\n" ++ String.join (causes.zipIdx.map numberedCause)

def Failure.messages (failure : Failure) : String :=
  failure.notes ++ "Error: " ++ failure.message ++ "\n" ++ causesText failure.causes

/-- The report of what a command came to. -/
def Report.of : Except Failure Success → Report
  | .ok success => ⟨0, success.output, success.notes⟩
  | .error failure => ⟨1, "", failure.messages⟩

/-- The number of characters that begin before a byte of the text. -/
def column (pos : Nat) : List Char → Nat
  | [] => 0
  | c :: rest => if pos = 0 then 0 else column (pos - c.utf8Size) rest + 1

/-- A formula that cannot be read is shown with a mark below the place. -/
def Failure.ofSyntax (formula : String) (e : SyntaxError) : Failure where
  notes := formula ++ "\n" ++ String.ofList (blanks (column e.pos formula.toList)) ++ "^\n"
  message := "Invalid formula"
  causes := [e.message]

end RowFormula.Command
