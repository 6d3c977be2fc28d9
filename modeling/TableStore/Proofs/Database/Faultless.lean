import TableStore.Proofs.Database.Display

/-! # No faults

On a store that some statements lead to, a bound condition finds a cell of the right kind in every
row, and no integer is too long to be written. So whatever is executed ends in an answer with a text
or in an error, never in a fault.
-/

namespace TableStore

open Text

set_option autoImplicit false

/-- What a bound condition finds in a row: a cell, of the same kind as the value it is compared with. -/
structure BoundCondition.Meets (condition : BoundCondition) (row : Row) : Prop where
  exists_cell : ∃ cell, row[condition.index]? = some cell ∧ condition.type.Matches cell
  value_matches : condition.type.Matches condition.value
  exists_holds : ∃ kept, condition.holds row = .ok kept

theorem BoundCondition.Fits.meets {condition : BoundCondition} {columns : List Column} {row : Row}
    (h : condition.Fits columns) (hRow : row.Fits columns) : condition.Meets row where
  exists_cell := by
    obtain ⟨column, hColumn, hType⟩ := h.exists_column
    obtain ⟨cell, hCell, hHolds⟩ := hRow.getElem? hColumn
    rw [hType] at hHolds
    exact ⟨cell, hCell, hHolds.matches⟩
  value_matches := h.value_matches
  exists_holds := ⟨_, h.holds_eq_ok hRow⟩

theorem Row.Fits.digitCount_le {columns : List Column} {row : Row} (h : row.Fits columns) {value : Int}
    (hValue : Cell.int value ∈ row) : digitCount value ≤ maxDigits := by
  obtain ⟨index, hIndex⟩ := List.getElem?_of_mem hValue
  obtain ⟨hBound, -⟩ := List.getElem?_eq_some_iff.mp hIndex
  rw [← List.Forall₂.length_eq h] at hBound
  obtain ⟨cell, hCell, hHolds⟩ := h.getElem? (List.getElem?_eq_getElem hBound)
  rw [hIndex] at hCell
  cases hCell
  generalize (columns[index]).type = type at hHolds
  cases hHolds with
  | int hDigits => exact hDigits

namespace Database

/-- After any statements, on any further text: a condition that is bound has one of the three
operators and meets every row of its table, so that the selection goes through; the rows of an answer
hold no integer that is too long to be written, and the answer has a text; a failure is an error; and
what is shown is always a text. -/
theorem execution_never_faults (texts : List String) (text : String) :
    let database := empty.executeAll texts
    let reply := database.execute text
    (∀ name table condition bound, database.table? name = some table →
      Condition.bindTo condition table = .ok bound →
        condition.operator = bound.comparison.text ∧ (∀ row ∈ table.rows, bound.Meets row) ∧
        ∃ rows, bound.select table.rows = .ok rows) ∧
      (∀ answer, reply.outcome = .ok (.found answer) →
        ∀ row ∈ answer.rows, ∀ value, Cell.int value ∈ row → digitCount value ≤ maxDigits) ∧
      (match reply.outcome with
        | .ok answer => ∃ shown, answer.render = .ok shown
        | .error failure => ∃ error, failure = .error error) ∧
      ∃ shown, (database.run text).text = .ok shown := by
  intro database reply
  have hDatabase : database.WellFormed := wellFormed_of_empty texts
  have hStep : Step database text reply.outcome reply.database := execute_step database text
  refine ⟨?_, ?_, ?_, hDatabase.exists_text_of_run text⟩
  · intro name table condition bound hTable hBound
    have hFormed := (hDatabase.of_table? hTable).1
    have hFits := hFormed.bindTo_fits hBound
    obtain ⟨column, -, -, -, hOperator, -⟩ := hFormed.bindTo_eq_ok_iff.mp hBound
    exact ⟨hOperator, fun row hRow => hFits.meets (hFormed.rows_fit row hRow), _,
      hFits.select_eq_ok hFormed.rows_fit⟩
  · intro answer hAnswer row hRow value hValue
    rw [hAnswer] at hStep
    obtain ⟨columns, hRows⟩ := hStep.rows_fit hDatabase
    exact (hRows row hRow).digitCount_le hValue
  · split
    · next answer hAnswer =>
      rw [hAnswer] at hStep
      exact hStep.exists_render hDatabase
    · next failure hFailure => exact hDatabase.exists_error_of_execute hFailure

end Database

end TableStore
