import Std.Time.Format
import TableStore.Console.Session

/-! # The program

Runs a session on standard input and output. The log goes to standard error as it comes about.
-/

namespace TableStore.Console

set_option autoImplicit false

/-- The local date and time, to the millisecond. -/
def timeStamp : IO String := do
  return (← Std.Time.PlainDateTime.now).format "uuuu-MM-dd HH:mm:ss,SSS"

def withoutLineFeed (line : String) : String :=
  if line.endsWith "\n" then String.ofList line.toList.dropLast else line

/-- An empty line is the end of the input, since any other line ends with a line feed or has text. -/
partial def interact (prompt : String) (threshold : Level) (database : Database) : IO Unit := do
  let output ← IO.getStdout
  output.putStr prompt
  output.flush
  let line ← (← IO.getStdin).getLine
  if line.isEmpty then output.putStr "\n"
  else
    let next := turn database (.ofLine (withoutLineFeed line))
    IO.eprint (logText (Event.line (← timeStamp)) threshold next.events)
    output.putStr next.output
    unless next.finished do interact prompt threshold next.database

def runProgram (arguments : List String) : IO UInt32 := do
  match Request.ofArguments arguments with
  | .error error =>
    let outcome := refusal error
    IO.eprint outcome.errorOutput
    return outcome.exitCode.toUInt32
  | .ok .help =>
    IO.print helpText
    return 0
  | .ok (.converse prompt threshold) =>
    IO.print greeting
    interact prompt threshold .empty
    return 0

end TableStore.Console

def main (arguments : List String) : IO UInt32 :=
  TableStore.Console.runProgram arguments
