import RowFormula.Command.Arguments
import RowFormula.Command.Run
import Std.Time.DateTime.Timestamp

/-! The program: reads what the command needs, runs it and prints the report. -/
namespace RowFormula.Program

/-- The text of a file, or why it cannot be read. -/
def readFile (path : String) : IO (Except String String) :=
  tryCatch (.ok <$> IO.FS.readFile path) fun e =>
    match e with
    | .noFileOrDirectory .. => pure (.error Command.noSuchFile)
    | other => pure (.error other.toString)

/-- The text of standard input, or why it cannot be read. -/
def readInput : IO (Except String String) :=
  tryCatch (do
    let bytes ← (← IO.getStdin).readToEnd
    return .ok bytes) fun e => pure (.error e.toString)

/-- The time at which the program runs. -/
def clock : IO Time.Instant := do
  let nanos := (← Std.Time.Timestamp.now).toNanosecondsSinceUnixEpoch
  return (Time.Instant.ofEpochNanos? nanos.toInt).getD .epoch

/-- The report of a command on the files of this machine. -/
def report (command : Command) : IO Command.Report := do
  let files ← command.files.mapM fun path => return (path, ← readFile path)
  let input ← if command.readsInput then readInput else pure (.ok "")
  let sources : Command.Sources :=
    { file := fun path => (files.lookup path).getD (.error Command.noSuchFile)
      input
      now := ← clock }
  return command.run sources

end RowFormula.Program

def main (args : List String) : IO UInt32 := do
  match RowFormula.Command.ofArguments? args with
  | none =>
    IO.eprintln "usage: rowformula tokens|parse|check|eval|compute [options] [formula]"
    return 2
  | some command =>
    let report ← RowFormula.Program.report command
    IO.print report.output
    IO.eprint report.messages
    return report.status.toUInt32
