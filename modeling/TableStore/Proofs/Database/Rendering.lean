import TableStore.Proofs.Database.Display
import TableStore.Proofs.Text.Decimal
import TableStore.Proofs.Text.Joined

/-! # Reading back what is shown

The rows of an answer are shown as lines of cells. If no text among the cells holds a line break or what
stands between two cells, then the lines and their cells are found again in what is shown, and the types
of the columns tell which cell a text is that of. No rows are shown as a text of their own, which else is
shown only for one row of that very text.
-/

namespace TableStore

open Text

set_option autoImplicit false

/-- A text that holds neither a line break nor what stands between two cells. -/
def Cell.Plain : Cell → Prop
  | int _ => True
  | text value => '\n' ∉ value.toList ∧ Lacks ", " value

theorem unbordered_comma : Unbordered ", ".toList := by decide

theorem unbordered_newline : Unbordered "\n".toList := by decide

theorem lacks_of_not_mem {separator text : String} {c : Char} (hSeparator : c ∈ separator.toList)
    (hText : c ∉ text.toList) : Lacks separator text :=
  fun hInfix => hText (hInfix.subset hSeparator)

theorem not_mem_toString {c : Char} (hMinus : c ≠ '-') (hDigit : isDigit c = false) (value : Int) :
    c ∉ (toString value).toList := by
  have hOthers : ∀ other ∈ (toString value).toList, other ≠ c := by
    refine (isNumber_toString value).forall_mem hMinus.symm ?_
    rintro other hOther rfl
    rw [hDigit] at hOther
    cases hOther
  exact fun hMember => hOthers c hMember rfl

namespace Cell

variable {cell : Cell}

theorem Plain.newline_not_mem (h : cell.Plain) : '\n' ∉ cell.shown.toList := by
  cases cell with
  | int value => exact not_mem_toString (by decide) (by decide) value
  | text value => exact h.1

theorem Plain.lacks_comma (h : cell.Plain) : Lacks ", " cell.shown := by
  cases cell with
  | int value =>
    exact lacks_of_not_mem List.mem_cons_self (not_mem_toString (by decide) (by decide) value)
  | text value => exact h.2

end Cell

theorem ColumnType.Holds.shown_inj {type : ColumnType} {cell other : Cell} (hCell : type.Holds cell)
    (hOther : type.Holds other) (h : cell.shown = other.shown) : cell = other := by
  cases hCell with
  | @int _ left hLeft =>
    cases hOther with
    | @int _ right hRight =>
      have hText : toString left = toString right := h
      have hRead := integer?_toString hLeft
      rw [hText, integer?_toString hRight] at hRead
      rw [Option.some.inj hRead]
  | text _ =>
    cases hOther with
    | text _ => exact congrArg Cell.text h

/-- The row has one cell for each of the types. -/
def Row.Holds (types : List ColumnType) (row : Row) : Prop :=
  List.Forall₂ ColumnType.Holds types row

theorem Row.Fits.holds {columns : List Column} {row : Row} (h : row.Fits columns) :
    row.Holds (columns.map Column.type) :=
  List.forall₂_map_left_iff.mpr h

section Rows

variable {types : List ColumnType} {row other : Row} {rows others : List Row}

theorem Row.Holds.ne_nil (h : row.Holds types) (hTypes : types ≠ []) : row ≠ [] := by
  rintro rfl
  exact hTypes (List.forall₂_nil_right_iff.mp h)

/-- By induction on the types: each tells which cell is shown. -/
theorem Row.Holds.map_shown_inj (hRow : row.Holds types) (hOther : other.Holds types)
    (h : row.map Cell.shown = other.map Cell.shown) : row = other := by
  rw [Row.Holds] at hRow hOther
  induction hRow generalizing other with
  | nil =>
    cases hOther
    rfl
  | cons hCell _ ih =>
    cases hOther with
    | cons hOtherCell hOthers =>
      obtain ⟨hFirst, hRest⟩ := List.cons.inj h
      rw [hCell.shown_inj hOtherCell hFirst, ih hOthers hRest]

theorem Row.Holds.shown_inj (hTypes : types ≠ []) (hRow : row.Holds types) (hOther : other.Holds types)
    (hPlain : ∀ cell ∈ row, cell.Plain) (hOtherPlain : ∀ cell ∈ other, cell.Plain)
    (h : row.shown = other.shown) : row = other := by
  refine hRow.map_shown_inj hOther ?_
  refine joined_inj unbordered_comma ?_ ?_ ?_ ?_ h
  · exact List.forall_mem_map.mpr fun cell hCell => (hPlain cell hCell).lacks_comma
  · exact List.forall_mem_map.mpr fun cell hCell => (hOtherPlain cell hCell).lacks_comma
  · simpa using hRow.ne_nil hTypes
  · simpa using hOther.ne_nil hTypes

/-- A text may hold what stands between cells, and then the border of the cells is lost. -/
example : Row.shown [.text "a, b", .text "c"] = Row.shown [.text "a", .text "b, c"] := by decide

theorem Row.lacks_newline_shown (hPlain : ∀ cell ∈ row, cell.Plain) : Lacks "\n" row.shown := by
  refine lacks_of_not_mem List.mem_cons_self ?_
  rw [Row.shown, String.toList_intercalate, List.map_map]
  refine not_mem_intercalate (by decide) (List.forall_mem_map.mpr fun cell hCell => ?_)
  exact (hPlain cell hCell).newline_not_mem

theorem shownRows_of_ne_nil (h : rows ≠ []) : shownRows rows = "\n".intercalate (rows.map Row.shown) := by
  cases rows with
  | nil => exact absurd rfl h
  | cons row rows => rfl

theorem map_shown_inj (hTypes : types ≠ []) (hRows : ∀ row ∈ rows, row.Holds types)
    (hOthers : ∀ row ∈ others, row.Holds types) (hPlain : ∀ row ∈ rows, ∀ cell ∈ row, cell.Plain)
    (hOthersPlain : ∀ row ∈ others, ∀ cell ∈ row, cell.Plain)
    (h : rows.map Row.shown = others.map Row.shown) : rows = others := by
  induction rows generalizing others with
  | nil => exact (List.map_eq_nil_iff.mp h.symm).symm
  | cons row rows ih =>
    obtain ⟨other, others, rfl, hFirst, hRest⟩ := List.map_eq_cons_iff.mp h.symm
    simp only [List.forall_mem_cons] at hRows hOthers hPlain hOthersPlain
    rw [hRows.1.shown_inj hTypes hOthers.1 hPlain.1 hOthersPlain.1 hFirst.symm,
      ih hRows.2 hOthers.2 hPlain.2 hOthersPlain.2 hRest.symm]

theorem shownRows_inj (hTypes : types ≠ []) (hRows : ∀ row ∈ rows, row.Holds types)
    (hOthers : ∀ row ∈ others, row.Holds types) (hPlain : ∀ row ∈ rows, ∀ cell ∈ row, cell.Plain)
    (hOthersPlain : ∀ row ∈ others, ∀ cell ∈ row, cell.Plain) (hNonempty : rows ≠ [])
    (hOthersNonempty : others ≠ []) (h : shownRows rows = shownRows others) : rows = others := by
  rw [shownRows_of_ne_nil hNonempty, shownRows_of_ne_nil hOthersNonempty] at h
  refine map_shown_inj hTypes hRows hOthers hPlain hOthersPlain ?_
  refine joined_inj unbordered_newline ?_ ?_ (by simpa using hNonempty) (by simpa using hOthersNonempty) h
  · exact List.forall_mem_map.mpr fun row hRow => Row.lacks_newline_shown (hPlain row hRow)
  · exact List.forall_mem_map.mpr fun row hRow => Row.lacks_newline_shown (hOthersPlain row hRow)

theorem exists_of_intercalate_map {α : Type} {separator text : String} {f : α → String} {items : List α}
    (hNonempty : items ≠ []) (h : separator.intercalate (items.map f) = text)
    (hLacks : Lacks separator text) : ∃ item, items = [item] ∧ f item = text := by
  rw [← h] at hLacks
  obtain ⟨only, hOnly⟩ := exists_singleton_of_lacks (by simpa using hNonempty) hLacks
  obtain ⟨item, rfl, rfl⟩ := List.map_eq_singleton_iff.mp hOnly
  rw [hOnly, String.intercalate_singleton] at h
  exact ⟨item, rfl, h⟩

/-- The text for no rows has no line break and nothing that stands between cells, and it is no integer. -/
theorem shownRows_eq_empty_iff (hTypes : types ≠ []) (hRows : ∀ row ∈ rows, row.Holds types)
    (hNonempty : rows ≠ []) :
    shownRows rows = shownRows [] ↔ rows = [[.text "No rows found."]] := by
  constructor
  · intro h
    have hLines : "\n".intercalate (rows.map Row.shown) = "No rows found." :=
      (shownRows_of_ne_nil hNonempty).symm.trans h
    obtain ⟨row, rfl, hLine⟩ := exists_of_intercalate_map hNonempty hLines (by decide)
    have hRow := hRows row List.mem_cons_self
    obtain ⟨cell, rfl, hCell⟩ := exists_of_intercalate_map (hRow.ne_nil hTypes) hLine (by decide)
    cases cell with
    | int value =>
      have hLetter : 'N' ∈ (toString value).toList := by
        have hText : toString value = "No rows found." := hCell
        rw [hText]
        decide
      exact absurd hLetter (not_mem_toString (by decide) (by decide) value)
    | text value =>
      have hText : value = "No rows found." := hCell
      rw [hText]
  · rintro rfl
    rfl

theorem Row.Holds.plain_of_integers (h : row.Holds types)
    (hTypes : ∀ type ∈ types, ∃ name, type = .int name) : ∀ cell ∈ row, cell.Plain := by
  rw [Row.Holds] at h
  induction h with
  | nil => exact List.forall_mem_nil _
  | @cons type cell types row hCell _ ih =>
    obtain ⟨⟨name, rfl⟩, hOthers⟩ := List.forall_mem_cons.mp hTypes
    cases hCell with
    | int _ => exact List.forall_mem_cons.mpr ⟨trivial, ih hOthers⟩

/-- Integers are never taken for one another, nor for the text for no rows. -/
theorem shownRows_inj_of_integers (hTypes : types ≠ []) (hIntegers : ∀ type ∈ types, ∃ name, type = .int name)
    (hRows : ∀ row ∈ rows, row.Holds types) (hOthers : ∀ row ∈ others, row.Holds types)
    (h : shownRows rows = shownRows others) : rows = others := by
  have hNoText : ∀ rows : List Row, (∀ row ∈ rows, row.Holds types) →
      rows ≠ [[.text "No rows found."]] := by
    rintro _ hRow rfl
    cases hRow _ List.mem_cons_self with
    | @cons type _ _ _ hCell _ =>
      obtain ⟨name, rfl⟩ := hIntegers type List.mem_cons_self
      cases hCell
  by_cases hEmpty : rows = []
  · subst hEmpty
    refine Decidable.of_not_not fun hNonempty => hNoText others hOthers ?_
    exact (shownRows_eq_empty_iff hTypes hOthers (Ne.symm hNonempty)).mp h.symm
  · by_cases hOthersEmpty : others = []
    · subst hOthersEmpty
      exact absurd ((shownRows_eq_empty_iff hTypes hRows hEmpty).mp h) (hNoText rows hRows)
    · exact shownRows_inj hTypes hRows hOthers (fun row hRow => (hRows row hRow).plain_of_integers hIntegers)
        (fun row hRow => (hOthers row hRow).plain_of_integers hIntegers) hEmpty hOthersEmpty h

end Rows

/-- The answer is one to a query on the table, in a store that some statements lead to. -/
def Table.Answers (table : Table) (answer : QueryAnswer) : Prop :=
  ∃ texts text query, Statement.ofText text = .ok (.select query) ∧
    (Database.empty.executeAll texts).table? query.table = some table ∧
    ((Database.empty.executeAll texts).execute text).outcome = .ok (.found answer)

theorem Table.Answers.rows_fit {table : Table} {answer : QueryAnswer} (h : table.Answers answer) :
    table.columns ≠ [] ∧ ∀ row ∈ answer.rows, Row.Fits table.columns row := by
  obtain ⟨texts, text, query, hStatement, hTable, hOutcome⟩ := h
  have hFormed := ((Database.wellFormed_of_empty texts).of_table? hTable).1
  rw [Database.outcome_of_select hStatement hTable] at hOutcome
  obtain ⟨found, hFound, hSame⟩ := exists_of_map_eq_ok hOutcome
  cases hSame
  exact ⟨hFormed.columns_ne_nil, hFormed.fits_of_answer hFound⟩

/-- Two answers on tables with the same types that are shown alike have the same rows, if both have rows
and no text holds a line break or what stands between two cells. No rows are shown like some rows only if
these are one row of the one text for no rows; so if all types are integer types, what is shown always
determines the rows. -/
theorem rendered_rows_are_read_back {table other : Table} {answer result : QueryAnswer}
    (hAnswer : table.Answers answer) (hResult : other.Answers result)
    (hTypes : table.columns.map Column.type = other.columns.map Column.type) :
    ∃ shown resultShown, answer.render = .ok shown ∧ result.render = .ok resultShown ∧
      (answer.rows ≠ [] → result.rows ≠ [] → (∀ row ∈ answer.rows, ∀ cell ∈ row, cell.Plain) →
        (∀ row ∈ result.rows, ∀ cell ∈ row, cell.Plain) → shown = resultShown →
        answer.rows = result.rows) ∧
      (answer.rows = [] → result.rows ≠ [] →
        (shown = resultShown ↔ result.rows = [[.text "No rows found."]])) ∧
      ((∀ column ∈ table.columns, ∃ name, column.type = .int name) → shown = resultShown →
        answer.rows = result.rows) := by
  obtain ⟨hColumns, hFits⟩ := hAnswer.rows_fit
  obtain ⟨-, hResultFits⟩ := hResult.rows_fit
  have hNonempty : table.columns.map Column.type ≠ [] := by simpa using hColumns
  have hRows : ∀ row ∈ answer.rows, row.Holds (table.columns.map Column.type) :=
    fun row hRow => (hFits row hRow).holds
  have hOthers : ∀ row ∈ result.rows, row.Holds (table.columns.map Column.type) :=
    fun row hRow => hTypes ▸ (hResultFits row hRow).holds
  refine ⟨_, _, answer.render_eq hFits, result.render_eq hResultFits, ?_, ?_, ?_⟩
  · intro hSome hSomeResult hPlain hResultPlain hShown
    exact shownRows_inj hNonempty hRows hOthers hPlain hResultPlain hSome hSomeResult hShown
  · intro hNone hSomeResult
    rw [hNone, eq_comm]
    exact shownRows_eq_empty_iff hNonempty hOthers hSomeResult
  · intro hIntegers hShown
    exact shownRows_inj_of_integers hNonempty (List.forall_mem_map.mpr hIntegers) hRows hOthers hShown

theorem row_is_shown_like_no_rows :
    ∃ shown, QueryAnswer.render ⟨["c"], [], .scan, .applied, 1⟩ = .ok shown ∧
      QueryAnswer.render ⟨["c"], [[.text "No rows found."]], .scan, .none, 1⟩ = .ok shown := by
  let table : Table := ⟨"t", [⟨"c", .text "TEXT", false⟩], [[.text "No rows found."]]⟩
  let texts := ["CREATE TABLE t (c TEXT)", "INSERT INTO t ('No rows found.')"]
  have hNone : table.Answers ⟨["c"], [], .scan, .applied, 1⟩ :=
    ⟨texts, "SELECT * FROM t WHERE c = ''", ⟨"t", .all, some "c = ''", []⟩, by decide +kernel,
      by decide +kernel, by decide +kernel⟩
  have hRow : table.Answers ⟨["c"], [[.text "No rows found."]], .scan, .none, 1⟩ :=
    ⟨texts, "SELECT * FROM t", ⟨"t", .all, none, []⟩, by decide +kernel, by decide +kernel,
      by decide +kernel⟩
  obtain ⟨shown, other, hShown, hOther, -, hAlike, -⟩ := rendered_rows_are_read_back hNone hRow rfl
  obtain rfl := (hAlike rfl (by simp)).mpr rfl
  exact ⟨shown, hShown, hOther⟩

end TableStore
