import TableStore.Database.Execution
import TableStore.Proofs.Database.WellFormed
import TableStore.Proofs.Table.Selection

/-! # Steps and runs of a store

What a statement may do to a store is said once: a table is added, a row is appended, or nothing
changes. Each kind of change keeps the invariant, so it holds after any list of statements, and a
store that some statements lead to answers with an error or in full.
-/

namespace TableStore

set_option autoImplicit false

namespace Database

/-- What executing a text may do to a store, with the outcome that goes with it. -/
inductive Step (database : Database) (text : String) : Except Failure Answer → Database → Prop
  | failed {failure : Failure} : Step database text (.error failure) database
  | found {query : Query} {table : Table} {answer : QueryAnswer} :
      Statement.ofText text = .ok (.select query) → database.table? query.table = some table →
      table.answer query = .ok answer → Step database text (.ok (.found answer)) database
  | created {name : String} {columns : List Column} :
      Statement.ofText text = .ok (.create name columns) → database.table? name = none →
      firstRepeated? [] (columns.map Column.name) = none →
      Step database text (.ok (.created name columns.length))
        ⟨database.entries ++ [(name, { name, columns, rows := [] })]⟩
  | inserted {name : String} {literals : List Literal} {table : Table} {row : Row} :
      Statement.ofText text = .ok (.insert name literals) → database.table? name = some table →
      table.readRow literals = .ok row →
      Step database text (.ok .inserted) (database.append name row)

theorem table_eq_ok {database : Database} {name : String} {table : Table}
    (h : database.table name = .ok table) : database.table? name = some table := by
  rw [Database.table] at h
  split at h
  · cases h
  · next found hFound =>
    cases h
    exact hFound

theorem insert_eq_ok {database changed : Database} {name : String} {literals : List Literal}
    {row : Row} (h : (insert name literals).run database = .ok row changed) :
    ∃ table, database.table? name = some table ∧ table.readRow literals = .ok row ∧
      changed = database.append name row := by
  rw [insert_run] at h
  split at h
  · cases h
  · next table hTable =>
    split at h
    · cases h
    · next read hRead =>
      cases h
      exact ⟨table, table_eq_ok hTable, hRead, rfl⟩

theorem apply_step {database : Database} {text : String} {statement : Statement}
    (h : Statement.ofText text = .ok statement) :
    Step database text (database.apply statement).outcome (database.apply statement).database := by
  cases statement with
  | create name columns =>
    rw [apply]
    split
    · next hFailed =>
      obtain rfl := create_atomic name columns hFailed
      exact .failed
    · next changed hCreate =>
      obtain ⟨hAbsent, hDistinct, hEntries⟩ := create_eq_ok hCreate
      obtain ⟨entries⟩ := changed
      cases hEntries
      exact .created h hAbsent hDistinct
  | insert name literals =>
    rw [apply]
    split
    · next hFailed =>
      obtain rfl := insert_atomic name literals hFailed
      exact .failed
    · next row changed hInsert =>
      obtain ⟨table, hTable, hRow, rfl⟩ := insert_eq_ok hInsert
      exact .inserted h hTable hRow
  | select query =>
    rw [apply]
    split
    · exact .failed
    · next table hTable =>
      cases hAnswer : table.answer query with
      | error failure => exact .failed
      | ok answer => exact .found h (table_eq_ok hTable) hAnswer
  | other kind => exact .failed

theorem execute_step (database : Database) (text : String) :
    Step database text (database.execute text).outcome (database.execute text).database := by
  simp only [execute]
  split
  · exact .failed
  · next statement hStatement => exact apply_step hStatement

theorem outcome_of_select {database : Database} {text : String} {query : Query} {table : Table}
    (hStatement : Statement.ofText text = .ok (.select query))
    (hTable : database.table? query.table = some table) :
    (database.execute text).outcome = (table.answer query).map Answer.found := by
  simp only [execute, hStatement, apply, Database.table, hTable]

theorem reply_of_insert_ok {database : Database} {text name : String} {table : Table}
    {literals : List Literal} {row : Row}
    (hStatement : Statement.ofText text = .ok (.insert name literals))
    (hTable : database.table? name = some table) (hRow : table.readRow literals = .ok row) :
    (database.execute text).outcome = .ok .inserted ∧
      (database.execute text).database = database.append name row := by
  simp only [execute, hStatement, apply, insert_run, Database.table, hTable, hRow, and_self]

theorem reply_of_insert_error {database : Database} {text name : String} {table : Table}
    {literals : List Literal} {error : Error}
    (hStatement : Statement.ofText text = .ok (.insert name literals))
    (hTable : database.table? name = some table) (hRow : table.readRow literals = .error error) :
    (database.execute text).outcome = .error (.error error) := by
  simp only [execute, hStatement, apply, insert_run, Database.table, hTable, hRow]
  rfl

theorem reply_of_create_ok {database : Database} {text name : String} {columns : List Column}
    (hStatement : Statement.ofText text = .ok (.create name columns))
    (hAbsent : database.table? name = none)
    (hDistinct : firstRepeated? [] (columns.map Column.name) = none) :
    (database.execute text).outcome = .ok (.created name columns.length) ∧
      (database.execute text).database =
        ⟨database.entries ++ [(name, { name, columns, rows := [] })]⟩ := by
  have hCreate : (create name columns).run database =
      .ok () ⟨database.entries ++ [(name, { name, columns, rows := [] })]⟩ := by
    simp [create_run, hAbsent, hDistinct]
  simp [execute, hStatement, apply, hCreate]

theorem Step.wellFormed {database changed : Database} {text : String}
    {outcome : Except Failure Answer} (h : Step database text outcome changed)
    (hDatabase : database.WellFormed) : changed.WellFormed := by
  cases h with
  | failed => exact hDatabase
  | found => exact hDatabase
  | created hStatement hAbsent hDistinct =>
    obtain ⟨hName, hNonempty, hColumns⟩ := Statement.wellFormed_of_ofText hStatement
    exact hDatabase.create hAbsent (.create hName hNonempty hDistinct hColumns) rfl
  | inserted hStatement hTable hRow =>
    have hLiterals := Statement.wellFormed_of_ofText hStatement
    obtain ⟨hLength, hCells⟩ := Table.readRow_eq_ok hRow
    exact hDatabase.append hTable (Table.readCells_fits hCells hLength hLiterals)

theorem execute_wellFormed {database : Database} (h : database.WellFormed) (text : String) :
    (database.execute text).database.WellFormed :=
  (execute_step database text).wellFormed h

/-- By induction on the statements: each keeps the invariant. -/
theorem WellFormed.executeAll {database : Database} (h : database.WellFormed) (texts : List String) :
    (database.executeAll texts).WellFormed := by
  induction texts generalizing database with
  | nil => exact h
  | cons text texts ih => exact ih (execute_wellFormed h text)

/-- A store that some list of statements leads to. -/
theorem wellFormed_of_empty (texts : List String) : (empty.executeAll texts).WellFormed :=
  WellFormed.empty.executeAll texts

theorem WellFormed.exists_error_of_apply {database : Database} (h : database.WellFormed)
    {statement : Statement} {failure : Failure}
    (hOutcome : (database.apply statement).outcome = .error failure) :
    ∃ error, failure = .error error := by
  cases statement with
  | create name columns =>
    rw [apply] at hOutcome
    split at hOutcome <;> cases hOutcome
    exact ⟨_, rfl⟩
  | insert name literals =>
    rw [apply] at hOutcome
    split at hOutcome <;> cases hOutcome
    exact ⟨_, rfl⟩
  | select query =>
    rw [apply] at hOutcome
    split at hOutcome
    · cases hOutcome
      exact ⟨_, rfl⟩
    · next table hTable =>
      cases hAnswer : table.answer query with
      | ok answer =>
        rw [hAnswer] at hOutcome
        cases hOutcome
      | error other =>
        rw [hAnswer] at hOutcome
        cases hOutcome
        exact (h.of_table? (table_eq_ok hTable)).1.exists_error_of_answer hAnswer
  | other kind =>
    cases hOutcome
    exact ⟨_, rfl⟩

theorem WellFormed.exists_error_of_execute {database : Database} (h : database.WellFormed)
    {text : String} {failure : Failure}
    (hOutcome : (database.execute text).outcome = .error failure) :
    ∃ error, failure = .error error := by
  simp only [execute] at hOutcome
  split at hOutcome
  · cases hOutcome
    exact ⟨_, rfl⟩
  · exact h.exists_error_of_apply hOutcome

theorem run_database (database : Database) (text : String) :
    (database.run text).database = (database.execute text).database := by
  rw [run, Reply.display]
  split <;> rfl

/-- After any list of statements, failed ones included, the store is well formed, and looking for a
column finds exactly the one that carries the name. -/
theorem executeAll_empty_wellFormed (texts : List String) :
    (empty.executeAll texts).WellFormed ∧
      ∀ entry ∈ (empty.executeAll texts).entries, ∀ name,
        (∀ index, entry.2.columnIndex? name = some index ↔
          ∃ column, entry.2.columns[index]? = some column ∧ column.name = name) ∧
        (entry.2.columnIndex? name = none ↔ ∀ column ∈ entry.2.columns, column.name ≠ name) := by
  have hWellFormed := wellFormed_of_empty texts
  refine ⟨hWellFormed, ?_⟩
  intro entry hEntry name
  constructor
  · exact fun index => (hWellFormed.tables_wellFormed entry hEntry).columnIndex?_eq_some_iff
  · exact Table.columnIndex?_eq_none_iff

/-- A statement adds one empty table under a new name, or appends one row to the table it names, or
changes nothing; it changes nothing if it fails or is a query. -/
theorem execute_all_or_nothing (texts : List String) (text : String) :
    let database := empty.executeAll texts
    let reply := database.execute text
    (database.run text).database = reply.database ∧
      match reply.outcome with
      | .error failure => (∃ error, failure = .error error) ∧ reply.database = database
      | .ok (.found _) => reply.database = database
      | .ok (.created name count) =>
        ∃ columns, Statement.ofText text = .ok (.create name columns) ∧ columns.length = count ∧
          name ∉ database.entries.map Prod.fst ∧
          reply.database.entries = database.entries ++ [(name, { name, columns, rows := [] })]
      | .ok .inserted =>
        ∃ name literals before table after row,
          Statement.ofText text = .ok (.insert name literals) ∧
          database.entries = before ++ (name, table) :: after ∧
          (∀ entry ∈ before ++ after, entry.1 ≠ name) ∧ table.readRow literals = .ok row ∧
          reply.database.entries =
            before ++ (name, { table with rows := table.rows ++ [row] }) :: after := by
  intro database reply
  have hDatabase : database.WellFormed := wellFormed_of_empty texts
  have hStep : Step database text reply.outcome reply.database := execute_step database text
  refine ⟨run_database database text, ?_⟩
  generalize hOutcome : reply.outcome = outcome at hStep
  generalize reply.database = changed at hStep
  cases hStep with
  | failed => exact ⟨hDatabase.exists_error_of_execute hOutcome, rfl⟩
  | found => rfl
  | created hStatement hAbsent =>
    exact ⟨_, hStatement, rfl, not_mem_keys_of_table?_eq_none hAbsent, rfl⟩
  | @inserted name literals table row hStatement hTable hRow =>
    obtain ⟨before, after, hSplit, hBefore, hAfter⟩ := hDatabase.exists_split hTable
    refine ⟨name, literals, before, table, after, row, hStatement, hSplit, ?_, hRow,
      append_entries row hSplit hBefore hAfter⟩
    intro entry hEntry
    rcases List.mem_append.mp hEntry with hEntry | hEntry
    · exact hBefore entry hEntry
    · exact hAfter entry hEntry

end Database

end TableStore
