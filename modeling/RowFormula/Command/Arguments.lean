import RowFormula.Command

/-! The words of a command line. Options stand anywhere after the name of the command; two
dashes alone end them. -/
namespace RowFormula.Command

inductive Flag where
  | schema | row | rows | order | now | stats
  /-- More is logged. There is no log, so it changes nothing. -/
  | verbose
  deriving DecidableEq

namespace Flag

def long : Flag → String
  | schema => "schema"
  | row => "row"
  | rows => "rows"
  | order => "order"
  | now => "now"
  | stats => "stats"
  | verbose => "verbose"

def short? : Flag → Option Char
  | schema => some 's'
  | row | rows => some 'r'
  | order => some 'o'
  | verbose => some 'v'
  | now | stats => none

def takesValue : Flag → Bool
  | stats | verbose => false
  | _ => true

/-- The options of a command. -/
def allowed : String → List Flag
  | "check" => [schema, verbose]
  | "eval" => [schema, row, now, verbose]
  | "compute" => [schema, rows, order, now, stats, verbose]
  | _ => [verbose]

end Flag

/-- A part of a command line. -/
inductive Argument where
  | operand (text : String)
  | switch (flag : Flag)
  | option (flag : Flag) (value : String)

/-- Parts of a command line, and an option that still needs a value. -/
abbrev Reading := List Argument × Option Flag

/-- The options of one letter in a word after its dash. What follows the letter of an option
with a value is the value. -/
def readLetters (flags : List Flag) : List Char → Option Reading
  | [] => some ([], none)
  | c :: rest =>
    match flags.find? (·.short? = some c) with
    | none => none
    | some flag =>
      if flag.takesValue then
        match rest with
        | [] => some ([], some flag)
        | '=' :: value => some ([.option flag (String.ofList value)], none)
        | value => some ([.option flag (String.ofList value)], none)
      else (readLetters flags rest).map fun (parts, open_) => (.switch flag :: parts, open_)

/-- The option in a word after its two dashes. -/
def readLong (flags : List Flag) (cs : List Char) : Option Reading :=
  let name := cs.takeWhile (· ≠ '=')
  match flags.find? (·.long.toList = name), cs.drop name.length with
  | some flag, [] => some (if flag.takesValue then ([], some flag) else ([.switch flag], none))
  | some flag, _ :: value =>
    if flag.takesValue then some ([.option flag (String.ofList value)], none) else none
  | none, _ => none

/-- One word. A dash alone is an operand. -/
def readWord (flags : List Flag) (word : String) : Option Reading :=
  match word.toList with
  | '-' :: '-' :: name => readLong flags name
  | '-' :: c :: rest => readLetters flags (c :: rest)
  | _ => some ([.operand word], none)

/-- The parts of a command line after the name of the command. -/
def readWords (flags : List Flag) : List String → Option (List Argument)
  | [] => some []
  | word :: rest =>
    if word = "--" then some (rest.map .operand)
    else
      match readWord flags word with
      | none => none
      | some (parts, none) => (readWords flags rest).map (parts ++ ·)
      | some (parts, some flag) =>
        match rest with
        | [] => none
        | value :: rest => (readWords flags rest).map fun more =>
          parts ++ .option flag value :: more

def operands (parts : List Argument) : List String :=
  parts.filterMap fun
    | .operand text => some text
    | _ => none

/-- The value of an option that is given at most once. -/
def value? (parts : List Argument) (flag : Flag) : Option (Option String) :=
  let values := parts.filterMap fun
    | .option f value => if f = flag then some value else none
    | _ => none
  match values with
  | [] => some none
  | [value] => some (some value)
  | _ => none

def hasSwitch (parts : List Argument) (flag : Flag) : Bool :=
  parts.any fun
    | .switch f => f = flag
    | _ => false

/-- The name of an order. -/
def order? : Option String → Option PassOrder
  | none | some "declared" => some .declared
  | some "dependency" => some .dependency
  | some _ => none

/-- The command with a name and the parts after it. -/
def ofParts? (name : String) (parts : List Argument) : Option Command := do
  let schema ← value? parts .schema
  let row ← value? parts .row
  let rows ← value? parts .rows
  let order ← order? (← value? parts .order)
  let clock ← value? parts .now
  match name, operands parts with
  | "tokens", [formula] => some (.tokens formula)
  | "parse", [formula] => some (.parse formula)
  | "check", [formula] => some (.check formula schema)
  | "eval", [formula] => some (.eval formula schema (row.getD "\x7b\x7d") clock)
  | "compute", [] =>
    schema.map fun schema => .compute schema rows order clock (hasSwitch parts .stats)
  | _, _ => none

/-- The command that the words of a command line name. -/
def ofArguments? : List String → Option Command
  | [] => none
  | word :: rest =>
    match readWord [.verbose] word with
    | some ([.operand name], _) => (readWords (Flag.allowed name) rest).bind (ofParts? name)
    | some _ => ofArguments? rest
    | none => none

end RowFormula.Command
