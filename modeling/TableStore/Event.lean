import TableStore.Statement.Record
import TableStore.Table

/-! # Events

What happens while a statement is read and carried out, for a log. An event has a level, the part of
the store that it comes from, and a message.
-/

namespace TableStore

open Text

set_option autoImplicit false

inductive Level where
  | debug
  | info
  | warning
  | error
deriving DecidableEq

namespace Level

def rank : Level → Nat
  | debug => 0
  | info => 1
  | warning => 2
  | error => 3

def name : Level → String
  | debug => "DEBUG"
  | info => "INFO"
  | warning => "WARNING"
  | error => "ERROR"

end Level

inductive Event where
  | skipped (c : Char) (position : Position)
  | valueIgnored (token : Token)
  | understood (text : String) (statement : Statement)
  | created (table : String) (columns : Nat)
  | inserted (row : Row) (table : String)
  | orderNotApplied (query : Query)
  | conditionIgnored (condition : String)
  | failed (message : String)
deriving DecidableEq

def Cell.record : Cell → String
  | int value => toString value
  | text value => escaped value

def rowRecord (row : Row) : String :=
  "[" ++ ", ".intercalate (row.map Cell.record) ++ "]"

namespace Event

def level : Event → Level
  | skipped _ _ => .debug
  | valueIgnored _ => .debug
  | understood _ _ => .debug
  | created _ _ => .info
  | inserted _ _ => .debug
  | orderNotApplied _ => .debug
  | conditionIgnored _ => .warning
  | failed _ => .debug

def source : Event → String
  | skipped _ _ => "tabledb.lexer"
  | valueIgnored _ => "tabledb.parser"
  | understood _ _ => "tabledb.db"
  | created _ _ => "tabledb.catalog"
  | inserted _ _ => "tabledb.catalog"
  | orderNotApplied _ => "tabledb.exec.executor"
  | conditionIgnored _ => "tabledb.exec.executor"
  | failed _ => "tabledb.db"

def message : Event → String
  | skipped c position =>
    let character := escaped (String.singleton c)
    s!"Skipping unrecognized character {character} at line {position.line}, col {position.column}"
  | valueIgnored token => s!"Ignoring non-literal token {escaped token.value} in INSERT value list"
  | understood text statement => s!"Parsed {escaped text} as {statement.record}"
  | created table columns => s!"Created table {table} with {columns} columns"
  | inserted row table => s!"Inserted row {rowRecord row} into {table}"
  | orderNotApplied query =>
    let projection := query.projection.record
    s!"Projection {projection} and ORDER BY {orderRecord query.order} are not applied for {query.table}"
  | conditionIgnored condition =>
    s!"WHERE clause {escaped condition} is not of the form 'column op value'; ignoring it"
  | failed message => s!"Statement failed: {message}"

end Event

end TableStore
