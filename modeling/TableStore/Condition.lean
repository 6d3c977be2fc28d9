import TableStore.Table
import TableStore.Text.Blank
import TableStore.Text.Quotes

/-! # Conditions

A condition names a column, an operator and a literal. Against a table it is bound to the index and
the type of the column, and its literal is read as a cell of that type, once for all rows.
-/

namespace TableStore

open Text

set_option autoImplicit false

structure Condition where
  column : String
  operator : String
  literal : String
deriving DecidableEq

/-- A text is a condition if blanks split it into three pieces. -/
def Condition.ofText? (text : String) : Option Condition :=
  match pieces text with
  | [column, operator, literal] => some { column, operator, literal := unquote literal }
  | _ => none

structure BoundCondition where
  index : Nat
  type : ColumnType
  comparison : Comparison
  value : Cell
deriving DecidableEq

def comparisonOf (operator : String) : Except Error Comparison :=
  match Comparison.ofText? operator with
  | none => .error (.unsupportedComparison operator)
  | some comparison => .ok comparison

def ColumnType.read (type : ColumnType) (literal : String) : Except Error Cell :=
  match type.read? literal with
  | none => .error (.invalidInteger literal)
  | some cell => .ok cell

/-- The column is looked up first, then the operator, and the literal is read last. -/
def Condition.bindTo (condition : Condition) (table : Table) : Except Error BoundCondition :=
  match table.column? condition.column with
  | none => .error (.columnNotFound table.name condition.column)
  | some (column, index) => do
    let comparison ← comparisonOf condition.operator
    let value ← column.type.read condition.literal
    return { index, type := column.type, comparison, value }

namespace BoundCondition

def holds (condition : BoundCondition) (row : Row) : Except Fault Bool :=
  match row[condition.index]? with
  | none => .error (.cellMissing condition.index)
  | some cell => (condition.type.order cell condition.value).map condition.comparison.accepts

/-- The rows for which the condition holds, in their order. -/
def select (condition : BoundCondition) : List Row → Except Fault (List Row)
  | [] => .ok []
  | row :: rows => do
    let kept ← condition.holds row
    let others ← condition.select rows
    return if kept then row :: others else others

end BoundCondition

/-- Compares the cells that two literals of one column type are read as. -/
def ColumnType.compareLiterals (type : ColumnType) (left operator right : String) :
    Except Failure Bool := do
  let left ← (type.read left).mapError Failure.error
  let right ← (type.read right).mapError Failure.error
  let comparison ← (comparisonOf operator).mapError Failure.error
  let order ← (type.order left right).mapError Failure.fault
  return comparison.accepts order

end TableStore
