import TableStore.Database.Query
import TableStore.Proofs.Table.WellFormed

/-! # Selecting rows

On a table whose rows fit its columns, a bound condition never meets a missing cell or a cell of the
other kind. So selecting is filtering, and a query fails only with an error, never with a fault.
-/

namespace TableStore

set_option autoImplicit false

theorem exists_of_map_eq_ok {α β ε : Type} {f : α → β} {result : Except ε α} {b : β}
    (h : result.map f = .ok b) : ∃ a, result = .ok a ∧ b = f a := by
  cases result with
  | error error => cases h
  | ok a =>
    cases h
    exact ⟨a, rfl, rfl⟩

theorem eq_error_of_map_eq_error {α β ε : Type} {f : α → β} {result : Except ε α} {error : ε}
    (h : result.map f = .error error) : result = .error error := by
  cases result with
  | error other =>
    cases h
    rfl
  | ok a => cases h

/-- Cells of the kind that a type compares. -/
inductive ColumnType.Matches : ColumnType → Cell → Prop
  | int {name : String} {value : Int} : Matches (.int name) (.int value)
  | text {name value : String} : Matches (.text name) (.text value)

/-- Do the cells compare so in the order of the type? -/
def ColumnType.compares (type : ColumnType) (comparison : Comparison) (left right : Cell) : Bool :=
  match type.order left right with
  | .ok order => comparison.accepts order
  | .error _ => false

namespace ColumnType

theorem Holds.matches {type : ColumnType} {cell : Cell} (h : type.Holds cell) : type.Matches cell := by
  cases h with
  | int _ => exact .int
  | text _ => exact .text

theorem matches_of_read? {type : ColumnType} {literal : String} {cell : Cell}
    (h : type.read? literal = some cell) : type.Matches cell := by
  cases type with
  | int name =>
    obtain ⟨value, -, rfl⟩ := Option.map_eq_some_iff.mp h
    exact .int
  | text name =>
    cases h
    exact .text

theorem order_map_accepts {type : ColumnType} {left right : Cell} (comparison : Comparison)
    (hLeft : type.Matches left) (hRight : type.Matches right) :
    (type.order left right).map comparison.accepts = .ok (type.compares comparison left right) := by
  cases hLeft <;> cases hRight <;> rfl

end ColumnType

theorem Comparison.ofText?_eq_some_iff {text : String} {comparison : Comparison} :
    ofText? text = some comparison ↔ text = comparison.text := by
  constructor
  · intro h
    rw [ofText?.eq_def] at h
    split at h
    · cases h
      rfl
    · cases h
      rfl
    · cases h
      rfl
    · cases h
  · rintro rfl
    exact ofText?_text comparison

theorem Row.Fits.getElem? {columns : List Column} {row : Row} (h : row.Fits columns) {index : Nat}
    {column : Column} (hColumn : columns[index]? = some column) :
    ∃ cell, row[index]? = some cell ∧ column.type.Holds cell := by
  rw [Row.Fits] at h
  induction h generalizing index with
  | nil => cases hColumn
  | cons hCell _ ih =>
    cases index with
    | zero =>
      cases hColumn
      exact ⟨_, rfl, hCell⟩
    | succ index => exact ih hColumn

namespace BoundCondition

def keeps (condition : BoundCondition) (row : Row) : Bool :=
  row[condition.index]?.any fun cell =>
    condition.type.compares condition.comparison cell condition.value

/-- The index is that of a column, and the value is of the kind that the column compares. -/
structure Fits (condition : BoundCondition) (columns : List Column) : Prop where
  exists_column : ∃ column, columns[condition.index]? = some column ∧ column.type = condition.type
  value_matches : condition.type.Matches condition.value

variable {condition : BoundCondition} {columns : List Column}

theorem Fits.holds_eq_ok (h : condition.Fits columns) {row : Row} (hRow : row.Fits columns) :
    condition.holds row = .ok (condition.keeps row) := by
  obtain ⟨column, hColumn, hType⟩ := h.exists_column
  obtain ⟨cell, hCell, hHolds⟩ := hRow.getElem? hColumn
  rw [hType] at hHolds
  simp only [holds, keeps, hCell, Option.any_some]
  exact ColumnType.order_map_accepts _ hHolds.matches h.value_matches

theorem Fits.select_eq_ok (h : condition.Fits columns) {rows : List Row}
    (hRows : ∀ row ∈ rows, Row.Fits columns row) :
    condition.select rows = .ok (rows.filter condition.keeps) := by
  induction rows with
  | nil => rfl
  | cons row rows ih =>
    have hOthers := ih fun other hOther => hRows other (List.mem_cons_of_mem _ hOther)
    have hFirst := h.holds_eq_ok (hRows row List.mem_cons_self)
    rw [select, hFirst, hOthers, List.filter_cons]
    rfl

end BoundCondition

namespace Table

variable {table : Table} {condition : Condition}

theorem WellFormed.bindTo_of_read? (h : table.WellFormed) {column : Column} {index : Nat}
    (hColumn : table.columns[index]? = some column) (comparison : Comparison) (literal : String) :
    Condition.bindTo { column := column.name, operator := comparison.text, literal } table =
      match column.type.read? literal with
      | none => .error (.invalidInteger literal)
      | some value => .ok { index, type := column.type, comparison, value } := by
  have hFound := h.column?_eq_some_iff.mpr ⟨hColumn, rfl⟩
  simp only [Condition.bindTo, hFound, comparisonOf, Comparison.ofText?_text, ColumnType.read]
  cases column.type.read? literal <;> rfl

/-- Binding finds the column, the comparison and the cell that the condition names. -/
theorem WellFormed.bindTo_eq_ok_iff (h : table.WellFormed) {bound : BoundCondition} :
    condition.bindTo table = .ok bound ↔
      ∃ column, table.columns[bound.index]? = some column ∧ column.name = condition.column ∧
        bound.type = column.type ∧ condition.operator = bound.comparison.text ∧
        column.type.read? condition.literal = some bound.value := by
  constructor
  · intro hBound
    rw [Condition.bindTo] at hBound
    split at hBound
    · cases hBound
    · next column index hFound =>
      obtain ⟨hColumn, hName⟩ := h.column?_eq_some_iff.mp hFound
      simp only [comparisonOf, ColumnType.read] at hBound
      split at hBound
      · cases hBound
      · next comparison hComparison =>
        split at hBound
        · cases hBound
        · next value hValue =>
          cases hBound
          exact ⟨column, hColumn, hName, rfl, Comparison.ofText?_eq_some_iff.mp hComparison, hValue⟩
  · rintro ⟨column, hColumn, hName, hType, hOperator, hValue⟩
    have hBind := h.bindTo_of_read? hColumn bound.comparison condition.literal
    rw [hName, ← hOperator, hValue, ← hType] at hBind
    exact hBind

/-- Where no column or no comparison is meant, the statement cannot be carried out; else only the
literal can be of the wrong type. -/
theorem kind_of_bindTo_eq_error {error : Error} (hError : condition.bindTo table = .error error) :
    error.kind = .execution ∨ error.kind = .typeMismatch := by
  rw [Condition.bindTo] at hError
  split at hError
  · cases hError
    exact .inl rfl
  · simp only [comparisonOf, ColumnType.read] at hError
    split at hError
    · cases hError
      exact .inl rfl
    · split at hError
      · cases hError
        exact .inr rfl
      · cases hError

theorem WellFormed.bindTo_fits (h : table.WellFormed) {bound : BoundCondition}
    (hBound : condition.bindTo table = .ok bound) : bound.Fits table.columns := by
  obtain ⟨column, hColumn, -, hType, -, hValue⟩ := h.bindTo_eq_ok_iff.mp hBound
  refine ⟨⟨column, hColumn, hType.symm⟩, ?_⟩
  rw [hType]
  exact ColumnType.matches_of_read? hValue

theorem selectBy_of_error {error : Error} (h : condition.bindTo table = .error error) :
    table.selectBy condition = .error (.error error) := by
  rw [selectBy, h]
  rfl

theorem WellFormed.selectBy_of_ok (h : table.WellFormed) {bound : BoundCondition}
    (hBound : condition.bindTo table = .ok bound) :
    table.selectBy condition = .ok (table.allRows .applied (table.rows.filter bound.keeps)) := by
  rw [selectBy, hBound]
  simp only [Except.mapError, bind, Except.bind, (h.bindTo_fits hBound).select_eq_ok h.rows_fit]
  rfl

theorem WellFormed.selectBy_eq_ok_iff (h : table.WellFormed) {answer : QueryAnswer} :
    table.selectBy condition = .ok answer ↔
      ∃ bound, condition.bindTo table = .ok bound ∧
        answer = table.allRows .applied (table.rows.filter bound.keeps) := by
  cases hBound : condition.bindTo table with
  | error error => simp [selectBy_of_error hBound]
  | ok bound => simp [h.selectBy_of_ok hBound, eq_comm]

theorem WellFormed.exists_error_of_answer (h : table.WellFormed) {query : Query} {failure : Failure}
    (hAnswer : table.answer query = .error failure) : ∃ error, failure = .error error := by
  rw [answer] at hAnswer
  split at hAnswer
  · cases hAnswer
  · split at hAnswer
    · cases hAnswer
    · next condition _ =>
      cases hBound : condition.bindTo table with
      | error error =>
        rw [selectBy_of_error hBound] at hAnswer
        cases hAnswer
        exact ⟨error, rfl⟩
      | ok bound =>
        rw [h.selectBy_of_ok hBound] at hAnswer
        cases hAnswer

end Table

end TableStore
