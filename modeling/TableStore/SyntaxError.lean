import TableStore.Text.Escaped
import TableStore.Token

/-! # Syntax errors

A text that is no statement ends too early, or has a first token that cannot stand where it is. The
error names what was expected there.
-/

namespace TableStore

open Text

set_option autoImplicit false

/-- What a statement needs at some point. -/
inductive Expectation where
  | create
  | createdTable
  | openColumns
  | columnName
  | columnType (column : String)
  | closeColumns
  | insert
  | into
  | insertedTable
  | openValues
  | closeValues
  | select
  | selectedColumn
  | nextColumn
  | fromTable
  | queriedTable
  | orderColumn
deriving DecidableEq

def Expectation.text : Expectation → String
  | create => "Expected CREATE"
  | createdTable => "Expected table name after CREATE"
  | openColumns => "Expected '(' after table name"
  | columnName => "Expected column name"
  | columnType column => s!"Expected column type after column name {escaped column}"
  | closeColumns => "Expected ')' to close table definition"
  | insert => "Expected INSERT"
  | into => "Expected INTO after INSERT"
  | insertedTable => "Expected table name after INSERT INTO"
  | openValues => "Expected '(' before values"
  | closeValues => "expected ')' after values"
  | select => "Expected SELECT"
  | selectedColumn => "Expected column name or '*' after SELECT"
  | nextColumn => "Expected column name after ','"
  | fromTable => "Expected FROM after column list"
  | queriedTable => "Expected table name after FROM"
  | orderColumn => "Expected column name in ORDER BY"

inductive SyntaxError where
  | noInput
  | unknownCommand (position : Position)
  | expected (expectation : Expectation) (position : Position)
  /-- The position is that of the word WHERE. -/
  | emptyCondition (position : Position)
  | trailing (value : String) (position : Position)
  | unexpectedEnd (expectation : Expectation)
deriving DecidableEq

namespace SyntaxError

def position? : SyntaxError → Option Position
  | noInput => none
  | unknownCommand position => some position
  | expected _ position => some position
  | emptyCondition position => some position
  | trailing _ position => some position
  | unexpectedEnd _ => none

def cause : SyntaxError → String
  | noInput => "No input detected"
  | unknownCommand _ => "Unknown or incorrect command"
  | expected expectation _ => expectation.text
  | emptyCondition _ => "Expected condition after WHERE"
  | trailing value _ => s!"Unexpected token after end of statement: {escaped value}"
  | unexpectedEnd expectation => s!"Unexpected end of statement ({expectation.text})"

def message (error : SyntaxError) : String :=
  match error.position? with
  | none => s!"Syntax error: {error.cause}"
  | some position =>
    s!"Syntax error at line {position.line}, col {position.column}: {error.cause}"

end SyntaxError

end TableStore
