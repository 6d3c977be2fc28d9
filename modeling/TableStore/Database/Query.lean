import TableStore.Answer
import TableStore.Condition
import TableStore.Database
import TableStore.Event

/-! # Queries

A query scans one table. Its answer has every column and, in the order of insertion, the rows for
which the condition holds. A condition that is not made of three pieces is ignored with a warning.
-/

namespace TableStore

set_option autoImplicit false

namespace Table

def allRows (table : Table) (conditionUse : ConditionUse) (rows : List Row) : QueryAnswer where
  columns := table.columnNames
  rows := rows
  plan := .scan
  conditionUse := conditionUse
  scanned := table.rows.length

def selectBy (table : Table) (condition : Condition) : Except Failure QueryAnswer := do
  let bound ← (condition.bindTo table).mapError Failure.error
  let rows ← (bound.select table.rows).mapError Failure.fault
  return table.allRows .applied rows

def answer (table : Table) (query : Query) : Except Failure QueryAnswer :=
  match query.condition with
  | none => .ok (table.allRows .none table.rows)
  | some text =>
    match Condition.ofText? text with
    | none => .ok (table.allRows .ignored table.rows)
    | some condition => table.selectBy condition

end Table

namespace Query

def asksForOrder (query : Query) : Bool :=
  query.projection != .all || !query.order.isEmpty

/-- The condition, if it will be ignored. -/
def ignoredCondition? (query : Query) : Option String :=
  query.condition.filter fun text => (Condition.ofText? text).isNone

/-- What a query on an existing table gives notice of. -/
def events (query : Query) : List Event :=
  (if query.asksForOrder then [.orderNotApplied query] else [])
    ++ (query.ignoredCondition?.map Event.conditionIgnored).toList

end Query

end TableStore
