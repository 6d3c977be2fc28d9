import TableStore.Cell
import TableStore.Text.Case.Fold
import TableStore.Text.Case.Upper

/-! # Column types

A column holds integers if its declared type is INT or INTEGER, and texts otherwise. Its type reads
the text of a literal as a cell and orders cells: integers by value, texts by their case folding.
-/

namespace TableStore

open Text

set_option autoImplicit false

inductive ColumnType where
  | int (name : String)
  | text (name : String)
deriving DecidableEq

namespace ColumnType

/-- The type that is declared by a name, in any case. -/
def ofName (declared : String) : ColumnType :=
  let name := upper declared
  if name == "INT" || name == "INTEGER" then int name else text name

def name : ColumnType → String
  | int name => name
  | text name => name

def read? : ColumnType → String → Option Cell
  | int _, literal => (integer? literal).map Cell.int
  | text _, literal => some (.text literal)

def order : ColumnType → Cell → Cell → Except Fault Ordering
  | int _, .int left, .int right => .ok (compare left right)
  | text _, .text left, .text right => .ok (compare (fold left) (fold right))
  | _, left, right => .error (.mixedCells left right)

end ColumnType

inductive Comparison where
  | equal
  | less
  | greater
deriving DecidableEq

namespace Comparison

def text : Comparison → String
  | equal => "="
  | less => "<"
  | greater => ">"

def ofText? : String → Option Comparison
  | "=" => some equal
  | "<" => some less
  | ">" => some greater
  | _ => none

theorem ofText?_text (comparison : Comparison) : ofText? comparison.text = some comparison := by
  cases comparison <;> rfl

def accepts : Comparison → Ordering → Bool
  | equal, .eq => true
  | less, .lt => true
  | greater, .gt => true
  | _, _ => false

end Comparison

end TableStore
