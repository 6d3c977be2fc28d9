import TableStore.Proofs.Table.Selection

/-! # Rows that follow

What a query does with its condition depends on the columns of the table alone, not on its rows. So
when rows follow the rows of a table, the answer to the query is followed by those that it keeps.
-/

namespace TableStore

set_option autoImplicit false

/-- What becomes of the condition. The rows play no part in it. -/
def Query.useOn (query : Query) (table : Table) : Except Failure ConditionUse :=
  match query.condition with
  | none => .ok .none
  | some text =>
    match Condition.ofText? text with
    | none => .ok .ignored
    | some condition =>
      match condition.bindTo table with
      | .error error => .error (.error error)
      | .ok _ => .ok .applied

/-- Does the row satisfy the condition? Every row does if none is applied. -/
def Query.keeps (query : Query) (table : Table) (row : Row) : Bool :=
  match query.condition.bind Condition.ofText? with
  | none => true
  | some condition =>
    match condition.bindTo table with
    | .error _ => false
    | .ok bound => bound.keeps row

def Table.extend (table : Table) (rows : List Row) : Table :=
  { table with rows := table.rows ++ rows }

namespace Table

variable {table : Table} {query : Query}

theorem extend_nil (table : Table) : table.extend [] = table := by
  rw [extend, List.append_nil]

theorem extend_extend (table : Table) (rows others : List Row) :
    (table.extend rows).extend others = table.extend (rows ++ others) := by
  simp only [extend, List.append_assoc]

theorem WellFormed.answer_eq (h : table.WellFormed) (query : Query) :
    table.answer query =
      (query.useOn table).map fun use => table.allRows use (table.rows.filter (query.keeps table)) := by
  cases hCondition : query.condition with
  | none =>
    have hKeeps : query.keeps table = fun _ => true := by
      funext row
      simp [Query.keeps, hCondition]
    simp only [answer, Query.useOn, hCondition, hKeeps, Except.map, List.filter_true]
  | some text =>
    cases hOfText : Condition.ofText? text with
    | none =>
      have hKeeps : query.keeps table = fun _ => true := by
        funext row
        simp [Query.keeps, hCondition, hOfText]
      simp only [answer, Query.useOn, hCondition, hOfText, hKeeps, Except.map, List.filter_true]
    | some condition =>
      cases hBound : condition.bindTo table with
      | error error =>
        simp only [answer, Query.useOn, hCondition, hOfText, hBound, selectBy_of_error hBound]
        rfl
      | ok bound =>
        have hKeeps : query.keeps table = bound.keeps := by
          funext row
          simp [Query.keeps, hCondition, hOfText, hBound]
        simp only [answer, Query.useOn, hCondition, hOfText, hBound, h.selectBy_of_ok hBound, hKeeps]
        rfl

theorem keeps_of_useOn {use : ConditionUse} (hUse : query.useOn table = .ok use)
    (hOther : use ≠ .applied) (row : Row) : query.keeps table row = true := by
  rw [Query.useOn] at hUse
  split at hUse
  · next hCondition => simp [Query.keeps, hCondition]
  · next text hCondition =>
    split at hUse
    · next hOfText => simp [Query.keeps, hCondition, hOfText]
    · split at hUse
      · cases hUse
      · cases hUse
        exact absurd rfl hOther

theorem WellFormed.rows_of_answer (h : table.WellFormed) {answer : QueryAnswer}
    (hAnswer : table.answer query = .ok answer) :
    answer.rows = table.rows.filter (query.keeps table) ∧
      (answer.conditionUse ≠ .applied → ∀ row, query.keeps table row = true) := by
  rw [h.answer_eq] at hAnswer
  obtain ⟨use, hUse, rfl⟩ := exists_of_map_eq_ok hAnswer
  exact ⟨rfl, keeps_of_useOn hUse⟩

theorem WellFormed.fits_of_answer (h : table.WellFormed) {answer : QueryAnswer}
    (hAnswer : table.answer query = .ok answer) : ∀ row ∈ answer.rows, Row.Fits table.columns row := by
  intro row hRow
  rw [(h.rows_of_answer hAnswer).1] at hRow
  exact h.rows_fit row (List.mem_filter.mp hRow).1

/-- Neither depends on the rows of the table. -/
theorem answer_extend {rows : List Row} (h : table.WellFormed) (hExtended : (table.extend rows).WellFormed)
    (query : Query) :
    (table.extend rows).answer query = (table.answer query).map fun answer =>
      { answer with
        rows := answer.rows ++ rows.filter (query.keeps table)
        scanned := answer.scanned + rows.length } := by
  have hUse : query.useOn (table.extend rows) = query.useOn table := rfl
  have hKeeps : query.keeps (table.extend rows) = query.keeps table := rfl
  rw [hExtended.answer_eq, h.answer_eq, hUse, hKeeps]
  cases query.useOn table with
  | error failure => rfl
  | ok use => simp [Except.map, allRows, extend, columnNames]

end Table

end TableStore
