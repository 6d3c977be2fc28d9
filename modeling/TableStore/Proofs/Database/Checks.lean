import TableStore.Proofs.Database.Step
import TableStore.Proofs.Table.Checks

/-! # Checks of a store

Each kind of statement passes its checks in one order: first whether its table is there, then the checks of
that table. A statement fails exactly with the error of the first check that it does not pass, and if it
passes them all it is carried out.
-/

namespace TableStore

set_option autoImplicit false

namespace Database

/-- The first check that a statement does not pass, as the error that tells of it. -/
inductive FirstFailure (database : Database) : Statement → Error → Prop
  | tableExists {name : String} {columns : List Column} :
      name ∈ database.entries.map Prod.fst →
      FirstFailure database (.create name columns) (.tableExists name)
  | repeatedColumn {name column : String} {columns : List Column} :
      name ∉ database.entries.map Prod.fst → RepeatsFirst (columns.map Column.name) column →
      FirstFailure database (.create name columns) (.repeatedColumn column)
  | noTableToInsert {name : String} {values : List Literal} :
      name ∉ database.entries.map Prod.fst →
      FirstFailure database (.insert name values) (.tableNotFound name)
  | row {name : String} {values : List Literal} {table : Table} {error : Error} :
      (name, table) ∈ database.entries → table.RefusesRow values error →
      FirstFailure database (.insert name values) error
  | noTableToQuery {query : Query} :
      query.table ∉ database.entries.map Prod.fst →
      FirstFailure database (.select query) (.tableNotFound query.table)
  | condition {query : Query} {table : Table} {condition : Condition} {error : Error} :
      (query.table, table) ∈ database.entries → query.Compares condition →
      table.RefusesCondition condition error → FirstFailure database (.select query) error
  | unsupported {kind : String} : FirstFailure database (.other kind) (.unsupportedStatement kind)

/-- The statement passes all checks. -/
def Admits (database : Database) : Statement → Prop
  | .create name columns =>
    name ∉ database.entries.map Prod.fst ∧ (columns.map Column.name).Nodup
  | .insert name values => ∃ table, (name, table) ∈ database.entries ∧ table.AdmitsRow values
  | .select query => ∃ table, (query.table, table) ∈ database.entries ∧
      ∀ condition, query.Compares condition → table.AdmitsCondition condition
  | .other _ => False

variable {database : Database} {name : String} {error : Error}

theorem table?_eq_none_iff : database.table? name = none ↔ name ∉ database.entries.map Prod.fst := by
  refine ⟨not_mem_keys_of_table?_eq_none, fun hAbsent => ?_⟩
  rw [table?, List.lookup_eq_none_iff]
  intro entry hEntry
  have hOther : name ≠ entry.1 := fun hSame => hAbsent (hSame ▸ List.mem_map_of_mem hEntry)
  simpa using hOther

theorem isSome_table?_iff : (database.table? name).isSome ↔ name ∈ database.entries.map Prod.fst := by
  rw [← not_iff_not, ← table?_eq_none_iff]
  simp

theorem create_eq_error_iff {columns : List Column} :
    (∃ changed, (create name columns).run database = .error error changed) ↔
      database.FirstFailure (.create name columns) error := by
  constructor
  · rintro ⟨changed, h⟩
    rw [create_run] at h
    split at h
    · next hPresent =>
      cases h
      exact .tableExists (isSome_table?_iff.mp hPresent)
    · next hAbsent =>
      rw [isSome_table?_iff] at hAbsent
      split at h
      · next column hRepeated =>
        cases h
        exact .repeatedColumn hAbsent (firstRepeated?_eq_some_iff_repeatsFirst.mp hRepeated)
      · cases h
  · rintro (hPresent | ⟨hAbsent, hFirst⟩)
    · rw [create_run, if_pos (isSome_table?_iff.mpr hPresent)]
      exact ⟨_, rfl⟩
    · rw [create_run, if_neg (fun hPresent => hAbsent (isSome_table?_iff.mp hPresent)),
        firstRepeated?_eq_some_iff_repeatsFirst.mpr hFirst]
      exact ⟨_, rfl⟩

theorem exists_create_iff {columns : List Column} :
    (∃ changed, (create name columns).run database = .ok () changed) ↔
      database.Admits (.create name columns) := by
  constructor
  · rintro ⟨changed, hCreate⟩
    obtain ⟨hAbsent, hDistinct, -⟩ := create_eq_ok hCreate
    exact ⟨table?_eq_none_iff.mp hAbsent, (firstRepeated?_eq_none_iff.mp hDistinct).1⟩
  · rintro ⟨hAbsent, hDistinct⟩
    have hOnce : firstRepeated? [] (columns.map Column.name) = none :=
      firstRepeated?_eq_none_iff.mpr ⟨hDistinct, fun _ _ => List.not_mem_nil⟩
    rw [create_run, if_neg (fun hPresent => hAbsent (isSome_table?_iff.mp hPresent)), hOnce]
    exact ⟨_, rfl⟩

theorem insert_run_of_table? {values : List Literal} {table : Table}
    (hTable : database.table? name = some table) :
    (insert name values).run database =
      match table.readRow values with
      | .error error => .error error database
      | .ok row => .ok row (database.append name row) := by
  have hFound : database.table name = .ok table := by rw [Database.table, hTable]
  cases hRow : table.readRow values <;> simp only [insert_run, hFound, hRow]

theorem WellFormed.insert_eq_error_iff (h : database.WellFormed) {values : List Literal} :
    (∃ changed, (insert name values).run database = .error error changed) ↔
      database.FirstFailure (.insert name values) error := by
  constructor
  · rintro ⟨changed, hError⟩
    cases hTable : database.table? name with
    | none =>
      simp only [insert_run, Database.table, hTable] at hError
      cases hError
      exact .noTableToInsert (table?_eq_none_iff.mp hTable)
    | some table =>
      rw [insert_run_of_table? hTable] at hError
      split at hError
      · next hRow =>
        cases hError
        exact .row (h.table?_eq_some_iff.mp hTable) (Table.readRow_eq_error_iff.mp hRow)
      · cases hError
  · rintro (- | - | hAbsent | ⟨hEntry, hRefused⟩)
    · simp only [insert_run, Database.table, table?_eq_none_iff.mpr hAbsent]
      exact ⟨_, rfl⟩
    · rw [insert_run_of_table? (h.table?_eq_some_iff.mpr hEntry),
        Table.readRow_eq_error_iff.mpr hRefused]
      exact ⟨_, rfl⟩

theorem WellFormed.exists_insert_iff (h : database.WellFormed) {values : List Literal} :
    (∃ row changed, (insert name values).run database = .ok row changed) ↔
      database.Admits (.insert name values) := by
  constructor
  · rintro ⟨row, changed, hInsert⟩
    obtain ⟨table, hTable, hRow, -⟩ := insert_eq_ok hInsert
    exact ⟨table, h.table?_eq_some_iff.mp hTable, Table.exists_readRow_iff.mp ⟨row, hRow⟩⟩
  · rintro ⟨table, hEntry, hAdmits⟩
    obtain ⟨row, hRow⟩ := Table.exists_readRow_iff.mpr hAdmits
    rw [insert_run_of_table? (h.table?_eq_some_iff.mpr hEntry), hRow]
    exact ⟨_, _, rfl⟩

theorem apply_select_of_none {query : Query} (hTable : database.table? query.table = none) :
    (database.apply (.select query)).outcome = .error (.error (.tableNotFound query.table)) := by
  simp only [apply, Database.table, hTable, Reply.failed]

theorem apply_select_of_some {query : Query} {table : Table}
    (hTable : database.table? query.table = some table) :
    (database.apply (.select query)).outcome = (table.answer query).map Answer.found := by
  simp only [apply, Database.table, hTable]

theorem WellFormed.select_eq_error_iff (h : database.WellFormed) {query : Query} :
    (database.apply (.select query)).outcome = .error (.error error) ↔
      database.FirstFailure (.select query) error := by
  constructor
  · intro hError
    cases hTable : database.table? query.table with
    | none =>
      rw [apply_select_of_none hTable] at hError
      cases hError
      exact .noTableToQuery (table?_eq_none_iff.mp hTable)
    | some table =>
      rw [apply_select_of_some hTable] at hError
      obtain ⟨condition, hCondition, hRefused⟩ :=
        (h.of_table? hTable).1.answer_eq_error_iff.mp (eq_error_of_map_eq_error hError)
      exact .condition (h.table?_eq_some_iff.mp hTable) hCondition hRefused
  · rintro (- | - | - | - | hAbsent | ⟨hEntry, hCondition, hRefused⟩)
    · exact apply_select_of_none (table?_eq_none_iff.mpr hAbsent)
    · have hTable := h.table?_eq_some_iff.mpr hEntry
      rw [apply_select_of_some hTable,
        (h.of_table? hTable).1.answer_eq_error_iff.mpr ⟨_, hCondition, hRefused⟩]
      rfl

theorem WellFormed.exists_select_iff (h : database.WellFormed) {query : Query} :
    (∃ answer, (database.apply (.select query)).outcome = .ok answer) ↔
      database.Admits (.select query) := by
  constructor
  · rintro ⟨answer, hOk⟩
    cases hTable : database.table? query.table with
    | none =>
      rw [apply_select_of_none hTable] at hOk
      cases hOk
    | some table =>
      rw [apply_select_of_some hTable] at hOk
      obtain ⟨found, hFound, -⟩ := exists_of_map_eq_ok hOk
      exact ⟨table, h.table?_eq_some_iff.mp hTable,
        (h.of_table? hTable).1.exists_answer_iff.mp ⟨found, hFound⟩⟩
  · rintro ⟨table, hEntry, hAdmits⟩
    have hTable := h.table?_eq_some_iff.mpr hEntry
    obtain ⟨found, hFound⟩ := (h.of_table? hTable).1.exists_answer_iff.mpr hAdmits
    exact ⟨.found found, by rw [apply_select_of_some hTable, hFound]; rfl⟩

theorem WellFormed.apply_eq_error_iff (h : database.WellFormed) (statement : Statement) :
    (database.apply statement).outcome = .error (.error error) ↔
      database.FirstFailure statement error := by
  cases statement with
  | create name columns =>
    rw [← create_eq_error_iff, apply]
    cases (Database.create name columns).run database <;> simp [Reply.failed]
  | insert name values =>
    rw [← h.insert_eq_error_iff, apply]
    cases (Database.insert name values).run database <;> simp [Reply.failed]
  | select query => exact h.select_eq_error_iff
  | other kind =>
    constructor
    · rintro ⟨⟩
      exact .unsupported
    · rintro ⟨⟩
      rfl

theorem WellFormed.exists_apply_iff (h : database.WellFormed) (statement : Statement) :
    (∃ answer, (database.apply statement).outcome = .ok answer) ↔ database.Admits statement := by
  cases statement with
  | create name columns =>
    rw [← exists_create_iff, apply]
    cases (Database.create name columns).run database <;> simp [Reply.failed]
  | insert name values =>
    rw [← h.exists_insert_iff, apply]
    cases (Database.insert name values).run database <;> simp [Reply.failed]
  | select query => exact h.exists_select_iff
  | other kind => simp [apply, Reply.failed, Admits]

/-- The kinds of failure, each with what leads to it. -/
def FailsAs (database : Database) : Statement → ErrorKind → Prop
  | .create name _, .execution => name ∈ database.entries.map Prod.fst
  | .create name columns, .constraint =>
    name ∉ database.entries.map Prod.fst ∧ ¬(columns.map Column.name).Nodup
  | .insert name _, .execution => name ∉ database.entries.map Prod.fst
  | .insert name values, .constraint =>
    ∃ table, (name, table) ∈ database.entries ∧ values.length ≠ table.columns.length
  | .insert name values, .typeMismatch =>
    ∃ table, (name, table) ∈ database.entries ∧ values.length = table.columns.length ∧
      ∃ pair ∈ table.columns.zip values, pair.1.type.Refuses pair.2.text
  | .select query, .execution =>
    query.table ∉ database.entries.map Prod.fst ∨
      ∃ table condition, (query.table, table) ∈ database.entries ∧ query.Compares condition ∧
        (condition.column ∉ table.columnNames ∨ condition.operator ∉ ["=", "<", ">"])
  | .select query, .typeMismatch =>
    ∃ table condition column, (query.table, table) ∈ database.entries ∧ query.Compares condition ∧
      column ∈ table.columns ∧ column.name = condition.column ∧ condition.operator ∈ ["=", "<", ">"] ∧
      column.type.Refuses condition.literal
  | .other _, .execution => True
  | _, _ => False

theorem FirstFailure.failsAs {statement : Statement} (h : database.FirstFailure statement error) :
    database.FailsAs statement error.kind := by
  cases h with
  | tableExists hPresent => exact hPresent
  | repeatedColumn hAbsent hFirst => exact ⟨hAbsent, exists_repeatsFirst_iff.mp ⟨_, hFirst⟩⟩
  | noTableToInsert hAbsent => exact hAbsent
  | row hEntry hRefused =>
    cases hRefused with
    | count hCount => exact ⟨_, hEntry, hCount⟩
    | type hCount hFirst => exact ⟨_, hEntry, hCount, exists_refusesFirst_iff.mp ⟨_, _, hFirst⟩⟩
  | noTableToQuery hAbsent => exact .inl hAbsent
  | condition hEntry hCondition hRefused =>
    cases hRefused with
    | column hColumn => exact .inr ⟨_, _, hEntry, hCondition, .inl hColumn⟩
    | operator _ hOperator => exact .inr ⟨_, _, hEntry, hCondition, .inr hOperator⟩
    | literal hColumn hName hOperator hRefused =>
      exact ⟨_, _, _, hEntry, hCondition, hColumn, hName, hOperator, hRefused⟩
  | unsupported => trivial

theorem exists_firstFailure_of_failsAs {statement : Statement} {kind : ErrorKind}
    (h : database.FailsAs statement kind) :
    ∃ error, database.FirstFailure statement error ∧ error.kind = kind := by
  cases statement with
  | create name columns =>
    cases kind with
    | execution => exact ⟨_, .tableExists h, rfl⟩
    | constraint =>
      obtain ⟨hAbsent, hRepeats⟩ := h
      obtain ⟨column, hFirst⟩ := exists_repeatsFirst_iff.mpr hRepeats
      exact ⟨_, .repeatedColumn hAbsent hFirst, rfl⟩
    | _ => exact h.elim
  | insert name values =>
    cases kind with
    | execution => exact ⟨_, .noTableToInsert h, rfl⟩
    | constraint =>
      obtain ⟨table, hEntry, hCount⟩ := h
      exact ⟨_, .row hEntry (.count hCount), rfl⟩
    | typeMismatch =>
      obtain ⟨table, hEntry, hCount, hRefused⟩ := h
      obtain ⟨column, value, hFirst⟩ := exists_refusesFirst_iff.mpr hRefused
      exact ⟨_, .row hEntry (.type hCount hFirst), rfl⟩
    | _ => exact h.elim
  | select query =>
    cases kind with
    | execution =>
      rcases h with hAbsent | ⟨table, condition, hEntry, hCondition, hRefused⟩
      · exact ⟨_, .noTableToQuery hAbsent, rfl⟩
      · by_cases hColumn : condition.column ∈ table.columnNames
        · have hOperator := hRefused.resolve_left fun hMissing => hMissing hColumn
          exact ⟨_, .condition hEntry hCondition (.operator hColumn hOperator), rfl⟩
        · exact ⟨_, .condition hEntry hCondition (.column hColumn), rfl⟩
    | typeMismatch =>
      obtain ⟨table, condition, column, hEntry, hCondition, hColumn, hName, hOperator, hRefused⟩ := h
      exact ⟨_, .condition hEntry hCondition (.literal hColumn hName hOperator hRefused), rfl⟩
    | _ => exact h.elim
  | other text =>
    cases kind with
    | execution => exact ⟨_, .unsupported, rfl⟩
    | _ => exact h.elim

theorem failsAs_iff {statement : Statement} {kind : ErrorKind} :
    database.FailsAs statement kind ↔
      ∃ error, database.FirstFailure statement error ∧ error.kind = kind := by
  constructor
  · exact exists_firstFailure_of_failsAs
  · rintro ⟨error, hFirst, rfl⟩
    exact hFirst.failsAs

/-- In every store that statements lead to, a statement fails exactly with the error of its first check
that it does not pass, and the kind of the error says which check that was. It succeeds exactly when it
passes them all. -/
theorem commands_fail_at_first_check (texts : List String) (statement : Statement) :
    let database := empty.executeAll texts
    let outcome := (database.apply statement).outcome
    (∀ error, outcome = .error (.error error) ↔ database.FirstFailure statement error) ∧
      (∀ kind, (∃ error, outcome = .error (.error error) ∧ error.kind = kind) ↔
        database.FailsAs statement kind) ∧
      (∀ failure, outcome = .error failure → ∃ error, failure = .error error) ∧
      ((∃ answer, outcome = .ok answer) ↔ database.Admits statement) ∧
      ∀ text, Statement.ofText text = .ok statement → (database.execute text).outcome = outcome := by
  intro database outcome
  have hDatabase : database.WellFormed := wellFormed_of_empty texts
  refine ⟨fun error => hDatabase.apply_eq_error_iff statement, fun kind => ?_,
    fun failure => hDatabase.exists_error_of_apply, hDatabase.exists_apply_iff statement, ?_⟩
  · rw [failsAs_iff]
    simp only [outcome, hDatabase.apply_eq_error_iff]
  · intro text hText
    simp only [outcome, execute, hText]

/-- That the table is there is found before the repeated column. -/
example : ((empty.executeAll ["CREATE TABLE t (a INT)"]).execute "CREATE TABLE t (b INT, b INT)").outcome =
    .error (.error (.tableExists "t")) := by decide +kernel

end Database

end TableStore
