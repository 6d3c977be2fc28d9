import TableStore.Console.LogLine
import TableStore.Console.Options
import TableStore.Database.Execution
import TableStore.Text.Case.Lower

/-! # Sessions at the console

A session reads lines at a prompt. A line that starts with a dot is a command to the console, any
other line that is not blank is a statement. The session ends with an exit line or with the input.
-/

namespace TableStore.Console

open Text

set_option autoImplicit false

/-- What comes in at a prompt: a line, or an interrupt from the keyboard. -/
inductive Entry where
  | line (text : String)
  | interrupt
deriving DecidableEq

inductive Command where
  | leave
  | help
  | tables
  | schema (table : String)
  | schemaUsage
  | unknown (word : String)
deriving DecidableEq

/-- The command in a line of pieces, the first of which names it in any case. -/
def Command.ofPieces : List String → Command
  | [] => .unknown ""
  | name :: rest =>
    match lower name with
    | ".exit" => .leave
    | ".quit" => .leave
    | ".help" => .help
    | ".tables" => .tables
    | ".schema" =>
      match rest with
      | [table] => .schema table
      | _ => .schemaUsage
    | word => .unknown word

inductive Input where
  | interrupt
  | nothing
  | leave
  | command (command : Command)
  | statement (text : String)
deriving DecidableEq

def Input.ofLine (line : String) : Input :=
  let text := strip line
  if lower text == "exit;" then .leave
  else if text.isEmpty then .nothing
  else if text.toList.head? == some '.' then
    match Command.ofPieces (pieces text) with
    | .leave => .leave
    | other => .command other
  else .statement text

def Input.ofEntry : Entry → Input
  | .line text => .ofLine text
  | .interrupt => .interrupt

def greeting : String :=
  "Enter commands, or 'exit;' to quit. Type .help for help.\n"

def commandHelp : String :=
  "Meta commands:\n"
    ++ "  .help              show this help\n"
    ++ "  .tables            list tables\n"
    ++ "  .schema <table>    show table schema\n"
    ++ "  .exit / .quit      exit (or type exit;)\n"
    ++ "\n"
    ++ "One statement per line, ';' optional. Example:\n"
    ++ "  CREATE TABLE Users (id INT, name TEXT);\n"
    ++ "  INSERT INTO Users (1, 'Bob');\n"
    ++ "  SELECT * FROM Users WHERE id = 1;\n"

def linesText (lines : List String) : String :=
  String.join (lines.map (· ++ "\n"))

def tableList (database : Database) : String :=
  match database.tableNames with
  | [] => "(no tables)\n"
  | names => linesText names

def columnLine (column : Column) : String :=
  s!"  - {column.name} {column.type.name}" ++ if column.indexed then " INDEXED" else ""

def schemaText (table : Table) : String :=
  linesText (s!"TABLE {table.name} ({table.rows.length} rows)" :: table.columns.map columnLine)

def Command.output (database : Database) : Command → String
  | leave => ""
  | help => commandHelp
  | tables => tableList database
  | schema name =>
    match database.table? name with
    | none => s!"Table not found: {name}\n"
    | some table => schemaText table
  | schemaUsage => "Usage: .schema <table>\n"
  | unknown word => s!"Unknown command: {word}. Type .help\n"

/-- What one entry leads to. -/
structure Turn where
  output : String
  events : List Event
  database : Database
  finished : Bool

def displayText (display : Display) : String :=
  match display.text with
  | .ok text => text ++ "\n"
  | .error fault => s!"Internal error: {fault.message}\n"

def turn (database : Database) : Input → Turn
  | .interrupt => ⟨"\n", [], database, false⟩
  | .nothing => ⟨"", [], database, false⟩
  | .leave => ⟨"", [], database, true⟩
  | .command command => ⟨command.output database, [], database, false⟩
  | .statement text =>
    let display := database.run text
    ⟨displayText display, display.events, display.database, false⟩

structure Transcript where
  output : String
  events : List Event
  database : Database

/-- The session from one prompt on. At the end of the input the last prompt is closed by a line
feed. -/
def converse (prompt : String) (database : Database) : List Entry → Transcript
  | [] => ⟨prompt ++ "\n", [], database⟩
  | entry :: entries =>
    let first := turn database (.ofEntry entry)
    if first.finished then ⟨prompt ++ first.output, first.events, first.database⟩
    else
      let others := converse prompt first.database entries
      ⟨prompt ++ first.output ++ others.output, first.events ++ others.events, others.database⟩

/-- The lines of the events that reach the threshold. -/
def logText (format : Event → String) (threshold : Level) (events : List Event) : String :=
  linesText ((events.filter fun event => threshold.rank ≤ event.level.rank).map format)

structure Outcome where
  exitCode : Nat
  output : String
  errorOutput : String
deriving DecidableEq

def refusal (error : OptionError) : Outcome where
  exitCode := 2
  output := ""
  errorOutput := usage ++ s!"tabledb: error: {error.message}\n"

/-- The whole run of the console on its arguments and entries. The format gives the log line of each
event. -/
def sessionWith (format : Event → String) (arguments : List String) (entries : List Entry) : Outcome :=
  match Request.ofArguments arguments with
  | .error error => refusal error
  | .ok .help => ⟨0, helpText, ""⟩
  | .ok (.converse prompt threshold) =>
    let transcript := converse prompt .empty entries
    ⟨0, greeting ++ transcript.output, logText format threshold transcript.events⟩

/-- A session with coloured log lines, all of them with the same stamp. -/
def session (stamp : String) (arguments : List String) (entries : List Entry) : Outcome :=
  sessionWith (Event.line stamp) arguments entries

end TableStore.Console
