import Mathlib.Data.List.Forall2
import Mathlib.Data.List.Nodup
import TableStore.Database
import TableStore.Proofs.Statement.WellFormed
import TableStore.Proofs.Text.Numeral

/-! # The invariant of a table

A table has columns of different names, and each of its rows has one cell for each column that its
type can hold. Reading a row and appending it keeps this, and a column is found by its name.
-/

namespace TableStore

open Text

set_option autoImplicit false

/-- Integers with no more digits than a numeral may have, and texts that lack one of the quotes. -/
inductive ColumnType.Holds : ColumnType → Cell → Prop
  | int {name : String} {value : Int} : digitCount value ≤ maxDigits → Holds (.int name) (.int value)
  | text {name value : String} : LacksQuote value → Holds (.text name) (.text value)

def Row.Fits (columns : List Column) (row : Row) : Prop :=
  List.Forall₂ (fun column cell => column.type.Holds cell) columns row

structure Table.WellFormed (table : Table) : Prop where
  name_isName : IsName table.name.toList
  columns_ne_nil : table.columns ≠ []
  columnNames_nodup : table.columnNames.Nodup
  columns_wellFormed : ∀ column ∈ table.columns, column.WellFormed
  rows_fit : ∀ row ∈ table.rows, Row.Fits table.columns row

theorem ColumnType.holds_of_read? {type : ColumnType} {literal : String} {cell : Cell}
    (h : type.read? literal = some cell) (hLiteral : LacksQuote literal) : type.Holds cell := by
  cases type with
  | int name =>
    obtain ⟨value, hValue, rfl⟩ := Option.map_eq_some_iff.mp h
    exact .int (digitCount_le_of_integer? hValue)
  | text name =>
    cases h
    exact .text hLiteral

theorem firstRepeated?_eq_none_iff {seen names : List String} :
    firstRepeated? seen names = none ↔ names.Nodup ∧ ∀ name ∈ names, name ∉ seen := by
  induction names generalizing seen with
  | nil => simp [firstRepeated?]
  | cons name names ih =>
    rw [firstRepeated?, List.nodup_cons, List.forall_mem_cons]
    by_cases hSeen : name ∈ seen
    · simp [hSeen]
    · rw [if_neg (by simpa using hSeen), ih]
      constructor
      · rintro ⟨hNodup, hUnseen⟩
        refine ⟨⟨fun hMember => hUnseen name hMember List.mem_cons_self, hNodup⟩, hSeen, ?_⟩
        exact fun other hOther hOld => hUnseen other hOther (List.mem_cons_of_mem _ hOld)
      · rintro ⟨⟨hOnce, hNodup⟩, -, hUnseen⟩
        refine ⟨hNodup, fun other hOther hOld => ?_⟩
        rcases List.mem_cons.mp hOld with rfl | hOld
        · exact hOnce hOther
        · exact hUnseen other hOther hOld

namespace Table

theorem readCells_cons_eq_ok {table : String} {column : Column} {columns : List Column}
    {literal : Literal} {literals : List Literal} {row : Row}
    (h : readCells table (column :: columns) (literal :: literals) = .ok row) :
    ∃ cell cells, column.type.read? literal.text = some cell ∧
      readCells table columns literals = .ok cells ∧ row = cell :: cells := by
  rw [readCells] at h
  split at h
  · cases h
  · next cell hCell =>
    cases hRest : readCells table columns literals with
    | error error =>
      rw [hRest] at h
      cases h
    | ok cells =>
      rw [hRest] at h
      cases h
      exact ⟨cell, cells, hCell, rfl, rfl⟩

theorem readCells_fits {table : String} {columns : List Column} {literals : List Literal} {row : Row}
    (h : readCells table columns literals = .ok row) (hLength : literals.length = columns.length)
    (hLiterals : ∀ literal ∈ literals, LacksQuote literal.text) : Row.Fits columns row := by
  induction columns generalizing literals row with
  | nil =>
    cases h
    exact .nil
  | cons column columns ih =>
    cases literals with
    | nil => cases hLength
    | cons literal literals =>
      obtain ⟨cell, cells, hCell, hRest, rfl⟩ := readCells_cons_eq_ok h
      have hLiteral := hLiterals literal List.mem_cons_self
      exact .cons (ColumnType.holds_of_read? hCell hLiteral)
        (ih hRest (Nat.succ.inj hLength) fun other hOther =>
          hLiterals other (List.mem_cons_of_mem _ hOther))

theorem readRow_eq_ok {table : Table} {literals : List Literal} {row : Row}
    (h : table.readRow literals = .ok row) :
    literals.length = table.columns.length ∧ readCells table.name table.columns literals = .ok row := by
  rw [readRow] at h
  split at h
  · next hLength => exact ⟨eq_of_beq hLength, h⟩
  · cases h

/-- Each literal is read as the cell at its place. -/
theorem getElem?_of_readCells {table : String} {columns : List Column} {literals : List Literal}
    {row : Row} (h : readCells table columns literals = .ok row) {index : Nat} {column : Column}
    {literal : Literal} (hColumn : columns[index]? = some column)
    (hLiteral : literals[index]? = some literal) :
    ∃ cell, row[index]? = some cell ∧ column.type.read? literal.text = some cell := by
  induction columns generalizing literals row index with
  | nil => cases hColumn
  | cons first columns ih =>
    cases literals with
    | nil => cases hLiteral
    | cons text literals =>
      obtain ⟨cell, cells, hCell, hRest, rfl⟩ := readCells_cons_eq_ok h
      cases index with
      | zero =>
        cases hColumn
        cases hLiteral
        exact ⟨cell, rfl, hCell⟩
      | succ index => exact ih hRest hColumn hLiteral

/-- Since no name is used twice, looking for a name finds the only column that carries it. -/
theorem WellFormed.column?_eq_some_iff {table : Table} (h : table.WellFormed) {name : String}
    {column : Column} {index : Nat} :
    table.column? name = some (column, index) ↔
      table.columns[index]? = some column ∧ column.name = name := by
  have hSound : ∀ {column index}, table.column? name = some (column, index) →
      table.columns[index]? = some column ∧ column.name = name := by
    intro column index hFound
    have hName := List.find?_some hFound
    have hMember := List.mem_of_find?_eq_some hFound
    exact ⟨List.mem_zipIdx_iff_getElem?.mp hMember, eq_of_beq hName⟩
  refine ⟨hSound, ?_⟩
  rintro ⟨hColumn, hName⟩
  cases hFound : table.column? name with
  | none =>
    have hMember : (column, index) ∈ table.columns.zipIdx := List.mem_zipIdx_iff_getElem?.mpr hColumn
    have hDiffers := List.find?_eq_none.mp hFound _ hMember
    simp [hName] at hDiffers
  | some found =>
    obtain ⟨other, position⟩ := found
    obtain ⟨hOther, hOtherName⟩ := hSound hFound
    have hBound := (List.getElem?_eq_some_iff.mp hColumn).1
    have hSame : index = position := by
      apply (List.getElem?_inj (by simpa [columnNames] using hBound) h.columnNames_nodup).mp
      simp [columnNames, hColumn, hOther, hName, hOtherName]
    subst hSame
    rw [Option.some.inj (hOther.symm.trans hColumn)]

theorem WellFormed.columnIndex?_eq_some_iff {table : Table} (h : table.WellFormed) {name : String}
    {index : Nat} :
    table.columnIndex? name = some index ↔
      ∃ column, table.columns[index]? = some column ∧ column.name = name := by
  constructor
  · intro hIndex
    obtain ⟨⟨column, _⟩, hFound, rfl⟩ := Option.map_eq_some_iff.mp hIndex
    exact ⟨column, h.column?_eq_some_iff.mp hFound⟩
  · rintro ⟨column, hColumn⟩
    rw [columnIndex?, h.column?_eq_some_iff.mpr hColumn]
    rfl

theorem columnIndex?_eq_none_iff {table : Table} {name : String} :
    table.columnIndex? name = none ↔ ∀ column ∈ table.columns, column.name ≠ name := by
  rw [columnIndex?, Option.map_eq_none_iff, column?, List.find?_eq_none]
  constructor
  · intro h column hColumn hName
    obtain ⟨index, hIndex⟩ := List.getElem?_of_mem hColumn
    exact h (column, index) (List.mem_zipIdx_iff_getElem?.mpr hIndex) (beq_iff_eq.mpr hName)
  · rintro h ⟨column, index⟩ hMember hName
    have hColumn := List.mem_of_getElem? (List.mem_zipIdx_iff_getElem?.mp hMember)
    exact h column hColumn (beq_iff_eq.mp hName)

theorem WellFormed.append {table : Table} (h : table.WellFormed) {row : Row}
    (hRow : Row.Fits table.columns row) : (table.append row).WellFormed where
  name_isName := h.name_isName
  columns_ne_nil := h.columns_ne_nil
  columnNames_nodup := h.columnNames_nodup
  columns_wellFormed := h.columns_wellFormed
  rows_fit other hOther := by
    rcases List.mem_append.mp hOther with hOther | hOther
    · exact h.rows_fit other hOther
    · rw [List.mem_singleton.mp hOther]
      exact hRow

theorem WellFormed.create {name : String} {columns : List Column} (hName : IsName name.toList)
    (hNonempty : columns ≠ []) (hDistinct : firstRepeated? [] (columns.map Column.name) = none)
    (hColumns : ∀ column ∈ columns, column.WellFormed) :
    Table.WellFormed { name, columns, rows := [] } where
  name_isName := hName
  columns_ne_nil := hNonempty
  columnNames_nodup := (firstRepeated?_eq_none_iff.mp hDistinct).1
  columns_wellFormed := hColumns
  rows_fit row hRow := by cases hRow

end Table

end TableStore
