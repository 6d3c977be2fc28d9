import TableStore.Table

/-! # Answers

A statement that is carried out is answered by a message, or by rows with the names of their columns
and an account of how they were found.
-/

namespace TableStore

set_option autoImplicit false

inductive ConditionUse where
  | none
  | applied
  | ignored
deriving DecidableEq

/-- How rows are found. There are no indexes, so every row is looked at. -/
inductive Plan where
  | scan
deriving DecidableEq

structure QueryAnswer where
  columns : List String
  rows : List Row
  plan : Plan
  conditionUse : ConditionUse
  scanned : Nat
deriving DecidableEq

def renderRow (row : Row) : Except Fault String :=
  (row.mapM Cell.render).map (", ".intercalate ·)

def QueryAnswer.render (answer : QueryAnswer) : Except Fault String :=
  match answer.rows with
  | [] => .ok "No rows found."
  | rows => (rows.mapM renderRow).map ("\n".intercalate ·)

inductive Answer where
  | created (table : String) (columns : Nat)
  | inserted
  | found (answer : QueryAnswer)
deriving DecidableEq

namespace Answer

def rowsAffected : Answer → Nat
  | created _ _ => 0
  | inserted => 1
  | found _ => 0

def render : Answer → Except Fault String
  | created table columns => .ok s!"Table {table} created successfully with {columns} columns."
  | inserted => .ok "Data inserted successfully."
  | found answer => answer.render

end Answer

end TableStore
