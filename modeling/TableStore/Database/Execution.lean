import TableStore.Database.Query
import TableStore.Statement.Reading

/-! # Execution

A statement is read, then carried out. The reply holds its answer or failure, the database after it
and the events on the way. A failed statement leaves the database as it was.
-/

namespace TableStore

set_option autoImplicit false

structure Reply where
  outcome : Except Failure Answer
  database : Database
  events : List Event

/-- What is shown for a statement, with the database after it. -/
structure Display where
  text : Except Fault String
  database : Database
  events : List Event

namespace Reply

def failed (database : Database) (error : Error) : Reply where
  outcome := .error (.error error)
  database := database
  events := []

/-- An answer is rendered and an error is told. A failure of the store itself has no text. -/
def display (reply : Reply) : Display :=
  match reply.outcome with
  | .ok answer => ⟨answer.render, reply.database, reply.events⟩
  | .error (.error error) =>
    ⟨.ok s!"Error: {error.message}", reply.database, reply.events ++ [.failed error.message]⟩
  | .error (.fault fault) => ⟨.error fault, reply.database, reply.events⟩

end Reply

/-- The events of reading a text: the characters and values that do not count. -/
def readingEvents (text : String) : List Event :=
  (strays text).map (fun (position, c) => .skipped c position)
    ++ (ignoredValues (tokens text)).map Event.valueIgnored

namespace Database

def apply (database : Database) : Statement → Reply
  | .create table columns =>
    match (create table columns).run database with
    | .error error changed => .failed changed error
    | .ok () changed =>
      ⟨.ok (.created table columns.length), changed, [.created table columns.length]⟩
  | .insert table literals =>
    match (insert table literals).run database with
    | .error error changed => .failed changed error
    | .ok row changed => ⟨.ok .inserted, changed, [.inserted row table]⟩
  | .select query =>
    match database.table query.table with
    | .error error => .failed database error
    | .ok table => ⟨(table.answer query).map Answer.found, database, query.events⟩
  | .other kind => .failed database (.unsupportedStatement kind)

def execute (database : Database) (text : String) : Reply :=
  let reply :=
    match Statement.ofText text with
    | .error error => Reply.failed database (.malformed error)
    | .ok statement =>
      let reply := database.apply statement
      { reply with events := .understood text statement :: reply.events }
  { reply with events := readingEvents text ++ reply.events }

def run (database : Database) (text : String) : Display :=
  (database.execute text).display

/-- The database after a list of statements, failed ones included. -/
def executeAll (database : Database) (texts : List String) : Database :=
  texts.foldl (fun database text => (database.execute text).database) database

end Database

end TableStore
