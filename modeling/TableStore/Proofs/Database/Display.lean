import TableStore.Proofs.Database.Step
import TableStore.Proofs.Table.Growth

/-! # What is shown

The cells of a row that fits its columns have a text, so every answer can be shown. On a store that
some statements lead to, running a statement always shows a text.
-/

namespace TableStore

open Text

set_option autoImplicit false

theorem mapM_eq_ok {α β ε : Type} {f : α → Except ε β} {g : α → β} {items : List α}
    (h : ∀ item ∈ items, f item = .ok (g item)) : items.mapM f = .ok (items.map g) := by
  induction items with
  | nil => rfl
  | cons item items ih =>
    have hOthers := ih fun other hOther => h other (List.mem_cons_of_mem _ hOther)
    rw [List.mapM_cons, h item List.mem_cons_self, hOthers]
    rfl

/-- The text of a cell whose integer is not too long. -/
def Cell.shown : Cell → String
  | int value => toString value
  | text value => value

def Row.shown (row : Row) : String :=
  ", ".intercalate (row.map Cell.shown)

def shownRows : List Row → String
  | [] => "No rows found."
  | row :: rows => "\n".intercalate ((row :: rows).map Row.shown)

theorem ColumnType.Holds.render_eq {type : ColumnType} {cell : Cell} (h : type.Holds cell) :
    cell.render = .ok cell.shown := by
  cases h with
  | int hDigits => exact if_pos hDigits
  | text => rfl

theorem Row.Fits.renderRow_eq {columns : List Column} {row : Row} (h : row.Fits columns) :
    renderRow row = .ok row.shown := by
  have hCells : ∀ cell ∈ row, cell.render = .ok cell.shown := by
    rw [Row.Fits] at h
    induction h with
    | nil => exact List.forall_mem_nil _
    | cons hCell _ ih => exact List.forall_mem_cons.mpr ⟨hCell.render_eq, ih⟩
  rw [renderRow, mapM_eq_ok hCells]
  rfl

theorem QueryAnswer.render_eq {answer : QueryAnswer} {columns : List Column}
    (h : ∀ row ∈ answer.rows, Row.Fits columns row) : answer.render = .ok (shownRows answer.rows) := by
  have hRows : answer.rows.mapM renderRow = .ok (answer.rows.map Row.shown) :=
    mapM_eq_ok fun row hRow => (h row hRow).renderRow_eq
  rw [render.eq_def]
  cases hAnswer : answer.rows with
  | nil => rfl
  | cons row rows =>
    rw [hAnswer] at hRows
    simp only [hRows, shownRows]
    rfl

namespace Database

variable {database : Database}

/-- The rows that are found fit the columns of the table that they come from. -/
theorem Step.rows_fit {changed : Database} {text : String} {answer : QueryAnswer}
    (h : Step database text (.ok (.found answer)) changed) (hDatabase : database.WellFormed) :
    ∃ columns, ∀ row ∈ answer.rows, Row.Fits columns row := by
  cases h with
  | @found _ table _ hStatement hTable hAnswer =>
    exact ⟨table.columns, (hDatabase.of_table? hTable).1.fits_of_answer hAnswer⟩

theorem Step.exists_render {changed : Database} {text : String} {answer : Answer}
    (h : Step database text (.ok answer) changed) (hDatabase : database.WellFormed) :
    ∃ shown, answer.render = .ok shown := by
  cases answer with
  | created => exact ⟨_, rfl⟩
  | inserted => exact ⟨_, rfl⟩
  | found answer =>
    obtain ⟨columns, hRows⟩ := h.rows_fit hDatabase
    exact ⟨_, QueryAnswer.render_eq hRows⟩

theorem WellFormed.exists_text_of_run (h : database.WellFormed) (text : String) :
    ∃ shown, (database.run text).text = .ok shown := by
  have hStep := execute_step database text
  rw [run, Reply.display]
  split
  · next answer hOutcome =>
    rw [hOutcome] at hStep
    exact hStep.exists_render h
  · exact ⟨_, rfl⟩
  · next fault hOutcome =>
    obtain ⟨error, hError⟩ := h.exists_error_of_execute hOutcome
    cases hError

/-- What is shown for statements that are run one after another. -/
def runAll (database : Database) : List String → List (Except Fault String)
  | [] => []
  | text :: texts => (database.run text).text :: (database.run text).database.runAll texts

theorem WellFormed.exists_texts_of_runAll (h : database.WellFormed) (texts : List String) :
    ∃ shown : List String, database.runAll texts = shown.map .ok := by
  induction texts generalizing database with
  | nil => exact ⟨[], rfl⟩
  | cons text texts ih =>
    have hRun := execute_wellFormed h text
    rw [← run_database] at hRun
    obtain ⟨first, hFirst⟩ := h.exists_text_of_run text
    obtain ⟨others, hOthers⟩ := ih hRun
    refine ⟨first :: others, ?_⟩
    rw [runAll, hFirst, hOthers]
    rfl

end Database

end TableStore
