import TableStore.ColumnType
import TableStore.Token

/-! # Statements

A statement creates a table, inserts one row, or selects rows of a table. A query keeps the columns
and the order that it asks for, though the rows are answered whole and as they were inserted.
-/

namespace TableStore

set_option autoImplicit false

structure Column where
  name : String
  type : ColumnType
  indexed : Bool
deriving DecidableEq

inductive LiteralKind where
  | string
  | number
deriving DecidableEq

/-- A value of an insertion, without the quotes of a string. -/
structure Literal where
  kind : LiteralKind
  text : String
deriving DecidableEq

inductive Direction where
  | ascending
  | descending
deriving DecidableEq

structure OrderItem where
  column : String
  direction : Direction
deriving DecidableEq

inductive Projection where
  | all
  | columns (names : List String)
deriving DecidableEq

/-- The condition is the text after WHERE: the values of its tokens with single spaces between. -/
structure Query where
  table : String
  projection : Projection
  condition : Option String
  order : List OrderItem
deriving DecidableEq

inductive Statement where
  | create (table : String) (columns : List Column)
  | insert (table : String) (values : List Literal)
  | select (query : Query)
  /-- A kind of statement that no store carries out. -/
  | other (kind : String)
deriving DecidableEq

/-- The table that a statement is about. -/
def Statement.table? : Statement → Option String
  | create table _ => some table
  | insert table _ => some table
  | select query => some query.table
  | other _ => none

end TableStore
