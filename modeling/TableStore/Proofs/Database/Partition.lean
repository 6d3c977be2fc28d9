import TableStore.Proofs.Database.Step
import TableStore.Proofs.Table.Order

/-! # Rows divided by a literal

For a literal that a column can hold, every row of the table satisfies one of the three comparisons
and no other. Literals that compare equal divide the rows in the same way, and a greater literal has
more rows below it and fewer above.
-/

namespace TableStore

open Text

set_option autoImplicit false

/-- A condition that is bound to a column, for each comparison and each cell. -/
def Column.bound (column : Column) (index : Nat) (comparison : Comparison) (value : Cell) :
    BoundCondition :=
  { index, type := column.type, comparison, value }

namespace Column

variable {column : Column} {columns : List Column} {index : Nat} {row : Row} {left right : Cell}

theorem bound_fits (hColumn : columns[index]? = some column) (comparison : Comparison)
    (hLeft : column.type.Matches left) : (column.bound index comparison left).Fits columns :=
  ⟨⟨column, hColumn, rfl⟩, hLeft⟩

/-- A row has a cell in the column, and a bound condition compares that cell. -/
theorem exists_keeps_bound (hColumn : columns[index]? = some column) (hRow : row.Fits columns) :
    ∃ cell, row[index]? = some cell ∧ column.type.Matches cell ∧
      ∀ comparison value,
        (column.bound index comparison value).keeps row = column.type.compares comparison cell value := by
  obtain ⟨cell, hCell, hHolds⟩ := hRow.getElem? hColumn
  refine ⟨cell, hCell, hHolds.matches, fun comparison value => ?_⟩
  simp only [BoundCondition.keeps, bound, hCell, Option.any_some]

theorem exists_keeps_iff (hColumn : columns[index]? = some column) (hRow : row.Fits columns)
    (hLeft : column.type.Matches left) :
    ∃ comparison, ∀ other,
      (column.bound index other left).keeps row = decide (other = comparison) := by
  obtain ⟨cell, -, hMatches, hKeeps⟩ := exists_keeps_bound hColumn hRow
  obtain ⟨comparison, hCompares⟩ := ColumnType.exists_compares_iff hMatches hLeft
  exact ⟨comparison, fun other => (hKeeps other left).trans (hCompares other)⟩

theorem keeps_congr (hColumn : columns[index]? = some column) (hRow : row.Fits columns)
    (hLeft : column.type.Matches left) (hRight : column.type.Matches right)
    (h : column.type.compares .equal left right = true) (comparison : Comparison) :
    (column.bound index comparison left).keeps row = (column.bound index comparison right).keeps row := by
  obtain ⟨cell, -, hMatches, hKeeps⟩ := exists_keeps_bound hColumn hRow
  rw [hKeeps, hKeeps]
  exact ColumnType.compares_congr hMatches hLeft hRight h comparison

/-- With a greater literal, the rows below or at the lesser are below it, and the rows above it are
above the lesser. -/
theorem keeps_of_less (hColumn : columns[index]? = some column) (hRow : row.Fits columns)
    (hLeft : column.type.Matches left) (hRight : column.type.Matches right)
    (h : column.type.compares .less left right = true) :
    ((column.bound index .less left).keeps row = true →
        (column.bound index .less right).keeps row = true) ∧
      ((column.bound index .equal left).keeps row = true →
        (column.bound index .less right).keeps row = true) ∧
      ((column.bound index .greater right).keeps row = true →
        (column.bound index .greater left).keeps row = true) := by
  obtain ⟨cell, -, hMatches, hKeeps⟩ := exists_keeps_bound hColumn hRow
  simp only [hKeeps]
  exact ⟨ColumnType.compares_less_of_less hMatches hLeft hRight h,
    ColumnType.compares_less_of_equal hMatches hLeft hRight h,
    ColumnType.compares_greater_of_greater hMatches hLeft hRight h⟩

theorem exists_keeps_iff_relates (hColumn : columns[index]? = some column) (hRow : row.Fits columns)
    (hLeft : column.type.Matches left) :
    ∃ cell, row[index]? = some cell ∧ ∀ comparison,
      (column.bound index comparison left).keeps row = true ↔
        column.type.Relates comparison cell left := by
  obtain ⟨cell, hCell, hMatches, hKeeps⟩ := exists_keeps_bound hColumn hRow
  refine ⟨cell, hCell, fun comparison => ?_⟩
  rw [hKeeps]
  exact ColumnType.compares_iff_relates hMatches hLeft comparison

end Column

namespace Database

/-- For two literals that a column reads: every row satisfies exactly one comparison with the first,
as the order of integers or of folded texts has it. The rows of the three comparisons, each in the
order of insertion, are all rows. Literals that compare equal select the same rows; if the second is
greater, it has the rows below and at the first below it, and its own rows above it are above the
first. -/
theorem comparisons_partition_rows (texts : List String) {name : String} {table : Table} {index : Nat}
    {column : Column} {first second : String} {left right : Cell}
    (hTable : (empty.executeAll texts).table? name = some table)
    (hColumn : table.columns[index]? = some column) (hFirst : column.type.read? first = some left)
    (hSecond : column.type.read? second = some right) :
    (∀ comparison : Comparison,
      Condition.bindTo ⟨column.name, comparison.text, first⟩ table =
          .ok (column.bound index comparison left) ∧
        Condition.bindTo ⟨column.name, comparison.text, second⟩ table =
          .ok (column.bound index comparison right)) ∧
      (∀ row ∈ table.rows, ∃ comparison, ∀ other,
        (column.bound index other left).holds row = .ok (decide (other = comparison))) ∧
      (∀ row ∈ table.rows, ∃ cell, row[index]? = some cell ∧ ∀ comparison,
        (column.bound index comparison left).holds row = .ok true ↔
          column.type.Relates comparison cell left) ∧
      ∃ firstRows secondRows : Comparison → List Row,
        (∀ comparison,
          (column.bound index comparison left).select table.rows = .ok (firstRows comparison) ∧
          (column.bound index comparison right).select table.rows = .ok (secondRows comparison) ∧
          (firstRows comparison).Sublist table.rows) ∧
        (firstRows .less ++ firstRows .equal ++ firstRows .greater).Perm table.rows ∧
        (column.type.compareLiterals first "=" second = .ok true → firstRows = secondRows) ∧
        (column.type.compareLiterals first "<" second = .ok true →
          (firstRows .less).Sublist (secondRows .less) ∧
          (secondRows .greater).Sublist (firstRows .greater) ∧
          (firstRows .equal).Sublist (secondRows .less)) := by
  have hFormed := ((wellFormed_of_empty texts).of_table? hTable).1
  have hLeft := ColumnType.matches_of_read? hFirst
  have hRight := ColumnType.matches_of_read? hSecond
  have hFits := hFormed.rows_fit
  have hHolds : ∀ row ∈ table.rows, ∀ comparison,
      (column.bound index comparison left).holds row =
        .ok ((column.bound index comparison left).keeps row) := fun row hRow comparison =>
    (Column.bound_fits hColumn comparison hLeft).holds_eq_ok (hFits row hRow)
  refine ⟨fun comparison => ⟨?_, ?_⟩, ?_, ?_, ?_⟩
  · rw [hFormed.bindTo_of_read? hColumn comparison first, hFirst]
    rfl
  · rw [hFormed.bindTo_of_read? hColumn comparison second, hSecond]
    rfl
  · intro row hRow
    obtain ⟨comparison, hKeeps⟩ := Column.exists_keeps_iff hColumn (hFits row hRow) hLeft
    exact ⟨comparison, fun other => (hHolds row hRow other).trans (congrArg _ (hKeeps other))⟩
  · intro row hRow
    obtain ⟨cell, hCell, hKeeps⟩ := Column.exists_keeps_iff_relates hColumn (hFits row hRow) hLeft
    refine ⟨cell, hCell, fun comparison => ?_⟩
    rw [hHolds row hRow, Except.ok.injEq]
    exact hKeeps comparison
  · refine ⟨fun comparison => table.rows.filter (column.bound index comparison left).keeps,
      fun comparison => table.rows.filter (column.bound index comparison right).keeps,
      fun comparison => ⟨?_, ?_, List.filter_sublist⟩, ?_, ?_, ?_⟩
    · exact (Column.bound_fits hColumn comparison hLeft).select_eq_ok hFits
    · exact (Column.bound_fits hColumn comparison hRight).select_eq_ok hFits
    · exact filters_perm fun row hRow => Column.exists_keeps_iff hColumn (hFits row hRow) hLeft
    · intro hEqual
      rw [show "=" = Comparison.equal.text from rfl,
        ColumnType.compareLiterals_eq_ok hFirst hSecond, Except.ok.injEq] at hEqual
      funext comparison
      exact List.filter_congr fun row hRow =>
        Column.keeps_congr hColumn (hFits row hRow) hLeft hRight hEqual comparison
    · intro hLess
      rw [show "<" = Comparison.less.text from rfl,
        ColumnType.compareLiterals_eq_ok hFirst hSecond, Except.ok.injEq] at hLess
      have hKeeps := fun row hRow =>
        Column.keeps_of_less hColumn (hFits row hRow) hLeft hRight hLess
      exact ⟨filter_sublist_filter fun row hRow => (hKeeps row hRow).1,
        filter_sublist_filter fun row hRow => (hKeeps row hRow).2.2,
        filter_sublist_filter fun row hRow => (hKeeps row hRow).2.1⟩

theorem comparisons_partition_mixed_case :
    let database := empty.executeAll ["CREATE TABLE t (c TEXT)", "INSERT INTO t ('b')",
      "INSERT INTO t ('A')", "INSERT INTO t ('straße')", "INSERT INTO t ('B')"]
    ∃ table, database.table? "t" = some table ∧
      ∃ firstRows secondRows : Comparison → List Row,
        firstRows .less = [[.text "A"]] ∧ firstRows .equal = [[.text "b"], [.text "B"]] ∧
        (firstRows .less ++ firstRows .equal ++ firstRows .greater).Perm table.rows ∧
        secondRows .equal = [[.text "straße"]] ∧
        (firstRows .less).Sublist (secondRows .less) ∧
        (firstRows .equal).Sublist (secondRows .less) := by
  intro database
  have hTable : database.table? "t" = some ⟨"t", [⟨"c", .text "TEXT", false⟩],
      [[.text "b"], [.text "A"], [.text "straße"], [.text "B"]]⟩ := by decide +kernel
  have hColumn : [(⟨"c", .text "TEXT", false⟩ : Column)][0]? = some ⟨"c", .text "TEXT", false⟩ := rfl
  have hFirst : (ColumnType.text "TEXT").read? "B" = some (.text "B") := rfl
  have hSecond : (ColumnType.text "TEXT").read? "STRASSE" = some (.text "STRASSE") := rfl
  obtain ⟨-, -, -, firstRows, secondRows, hSelect, hPerm, -, hLess⟩ :=
    comparisons_partition_rows _ hTable hColumn hFirst hSecond
  obtain ⟨hBelow, -, hAt⟩ := hLess (by decide +kernel)
  refine ⟨_, hTable, firstRows, secondRows, ?_, ?_, hPerm, ?_, hBelow, hAt⟩
  · exact Except.ok.inj ((hSelect .less).1.symm.trans (by decide +kernel))
  · exact Except.ok.inj ((hSelect .equal).1.symm.trans (by decide +kernel))
  · exact Except.ok.inj ((hSelect .equal).2.1.symm.trans (by decide +kernel))

end Database

end TableStore
