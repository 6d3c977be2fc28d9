import TableStore.Error
import TableStore.Statement

/-! # Tables

A table has a name, its columns in the order of their declaration and its rows in the order of their
insertion. A row has one cell for each column.
-/

namespace TableStore

set_option autoImplicit false

abbrev Row : Type :=
  List Cell

structure Table where
  name : String
  columns : List Column
  rows : List Row
deriving DecidableEq

namespace Table

def columnNames (table : Table) : List String :=
  table.columns.map Column.name

/-- The first column of that name, with its index. -/
def column? (table : Table) (name : String) : Option (Column × Nat) :=
  table.columns.zipIdx.find? fun (column, _) => column.name == name

def columnIndex? (table : Table) (name : String) : Option Nat :=
  (table.column? name).map Prod.snd

/-- Reads literals as cells of the columns; the leftmost literal that does not fit is reported. -/
def readCells (table : String) : List Column → List Literal → Except Error Row
  | column :: columns, literal :: literals =>
    match column.type.read? literal.text with
    | none => .error (.wrongType table column.name column.type literal.text)
    | some cell => (readCells table columns literals).map (cell :: ·)
  | _, _ => .ok []

def readRow (table : Table) (literals : List Literal) : Except Error Row :=
  if literals.length == table.columns.length then readCells table.name table.columns literals
  else .error (.valueCount table.name literals.length table.columns.length)

def append (table : Table) (row : Row) : Table :=
  { table with rows := table.rows ++ [row] }

end Table

end TableStore
