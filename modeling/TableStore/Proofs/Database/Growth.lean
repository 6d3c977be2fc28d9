import TableStore.Proofs.Database.Step
import TableStore.Proofs.Table.Growth

/-! # Tables that grow

A table that is there keeps its columns for good, and its rows are followed by those that are inserted
later. So an answer to a query keeps its rows too, and a failure stays the same failure.
-/

namespace TableStore

set_option autoImplicit false

namespace Database

/-- The row that executing a text inserts into the table. -/
def insertedRow? (database : Database) (name text : String) : Option Row :=
  match Statement.ofText text with
  | .ok (.insert target literals) =>
    if target = name then
      match (insert target literals).run database with
      | .ok row _ => some row
      | .error _ _ => none
    else none
  | _ => none

/-- The rows that executing texts inserts into the table, one after another. -/
def insertedRows (database : Database) (name : String) : List String → List Row
  | [] => []
  | text :: texts =>
    (database.insertedRow? name text).toList ++ (database.execute text).database.insertedRows name texts

variable {database : Database} {name : String} {table : Table}

theorem table?_create {changed : Database} {columns : List Column} {other : String}
    (hTable : database.table? name = some table) (hCreate : (create other columns).run database = .ok () changed) :
    changed.table? name = some table := by
  obtain ⟨entries⟩ := changed
  obtain ⟨-, -, rfl⟩ := create_eq_ok hCreate
  rw [Database.table?, List.lookup_append]
  exact congrArg (Option.or · _) hTable

/-- One statement adds at most one row to a table. -/
theorem table?_execute (hTable : database.table? name = some table) (text : String) :
    (database.execute text).database.table? name =
      some (table.extend (database.insertedRow? name text).toList) := by
  have hSame : some table = some (table.extend (none : Option Row).toList) := by
    rw [Option.toList_none, Table.extend_nil]
  cases hStatement : Statement.ofText text with
  | error error =>
    simp only [execute, insertedRow?, hStatement]
    exact hTable.trans hSame
  | ok statement =>
    cases statement with
    | create other columns =>
      simp only [execute, insertedRow?, hStatement, apply]
      cases hCreate : (create other columns).run database with
      | error error changed =>
        obtain rfl := create_atomic other columns hCreate
        exact hTable.trans hSame
      | ok _ changed => exact (table?_create hTable hCreate).trans hSame
    | insert target literals =>
      simp only [execute, insertedRow?, hStatement, apply]
      cases hInsert : (insert target literals).run database with
      | error error changed =>
        obtain rfl := insert_atomic target literals hInsert
        rw [ite_self]
        exact hTable.trans hSame
      | ok row changed =>
        obtain ⟨-, -, -, rfl⟩ := insert_eq_ok hInsert
        simp only [table?_append, hTable, Option.map_some]
        by_cases hName : target = name
        · subst hName
          simp [Table.append, Table.extend]
        · simp [hName, Ne.symm hName, Table.extend]
    | select query =>
      simp only [execute, insertedRow?, hStatement, apply]
      cases database.table query.table <;> exact hTable.trans hSame
    | other kind =>
      simp only [execute, insertedRow?, hStatement, apply]
      exact hTable.trans hSame

/-- By induction on the statements: each adds its row, if it has one for the table, at the end. -/
theorem table?_executeAll (hTable : database.table? name = some table) (texts : List String) :
    (database.executeAll texts).table? name =
      some (table.extend (database.insertedRows name texts)) := by
  induction texts generalizing database table with
  | nil =>
    rw [insertedRows, Table.extend_nil]
    exact hTable
  | cons text texts ih =>
    rw [insertedRows, ← Table.extend_extend]
    exact ih (table?_execute hTable text)

theorem executeAll_append (database : Database) (texts others : List String) :
    database.executeAll (texts ++ others) = (database.executeAll texts).executeAll others :=
  List.foldl_append

/-- The failures that a later table of that name can mend. -/
theorem outcome_of_absent {text : String} {query : Query}
    (hStatement : Statement.ofText text = .ok (.select query))
    (hAbsent : database.table? query.table = none) :
    (database.execute text).outcome = .error (.error (.tableNotFound query.table)) := by
  simp only [execute, hStatement, apply, Database.table, hAbsent]
  rfl

theorem outcome_of_malformed {text : String} {error : SyntaxError}
    (hStatement : Statement.ofText text = .error error) :
    (database.execute text).outcome = .error (.error (.malformed error)) := by
  simp only [execute, hStatement]
  rfl

/-- While the store grows, the answer to a query grows by the rows that are inserted and satisfy its
condition, and what fails for another reason than an absent table fails again in the same way. -/
theorem queries_are_stable (before between : List String) (text : String) :
    let earlier := empty.executeAll before
    let later := empty.executeAll (before ++ between)
    (∀ answer, (earlier.execute text).outcome = .ok (.found answer) →
      ∃ query table, Statement.ofText text = .ok (.select query) ∧
        earlier.table? query.table = some table ∧
        answer.rows = table.rows.filter (query.keeps table) ∧
        (answer.conditionUse ≠ .applied → ∀ row, query.keeps table row = true) ∧
        let added := earlier.insertedRows query.table between
        (later.execute text).outcome = .ok (.found { answer with
          rows := answer.rows ++ added.filter (query.keeps table)
          scanned := answer.scanned + added.length })) ∧
    ∀ failure, (earlier.execute text).outcome = .error failure →
      ((∃ error, Statement.ofText text = .error error) ∨
        ∃ query, Statement.ofText text = .ok (.select query)) →
      (∀ name, failure ≠ .error (.tableNotFound name)) →
      (∃ error, failure = .error error) ∧ (later.execute text).outcome = .error failure := by
  intro earlier later
  have hEarlier : earlier.WellFormed := wellFormed_of_empty before
  have hLater : later.WellFormed := wellFormed_of_empty (before ++ between)
  have hAnswer : ∀ {query : Query} {table : Table}, Statement.ofText text = .ok (.select query) →
      earlier.table? query.table = some table →
      (later.execute text).outcome = (table.answer query).map fun answer =>
        .found { answer with
          rows := answer.rows ++ (earlier.insertedRows query.table between).filter (query.keeps table)
          scanned := answer.scanned + (earlier.insertedRows query.table between).length } := by
    intro query table hStatement hTable
    have hExtended := table?_executeAll hTable between
    rw [← executeAll_append] at hExtended
    have hBefore := (hEarlier.of_table? hTable).1
    have hAfter := (hLater.of_table? hExtended).1
    rw [outcome_of_select hStatement hExtended, Table.answer_extend hBefore hAfter]
    cases table.answer query <;> rfl
  constructor
  · intro answer hOutcome
    have hStep := execute_step earlier text
    rw [hOutcome] at hStep
    generalize (earlier.execute text).database = changed at hStep
    cases hStep with
    | @found query table _ hStatement hTable hFound =>
      obtain ⟨hRows, hKeeps⟩ := (hEarlier.of_table? hTable).1.rows_of_answer hFound
      refine ⟨query, table, hStatement, hTable, hRows, hKeeps, ?_⟩
      rw [hAnswer hStatement hTable, hFound]
      rfl
  · intro failure hOutcome hReading hPresent
    refine ⟨hEarlier.exists_error_of_execute hOutcome, ?_⟩
    rcases hReading with ⟨error, hStatement⟩ | ⟨query, hStatement⟩
    · rw [outcome_of_malformed hStatement] at hOutcome ⊢
      exact hOutcome
    · cases hTable : earlier.table? query.table with
      | none =>
        rw [outcome_of_absent hStatement hTable] at hOutcome
        cases hOutcome
        exact absurd rfl (hPresent query.table)
      | some table =>
        rw [outcome_of_select hStatement hTable] at hOutcome
        rw [hAnswer hStatement hTable, eq_error_of_map_eq_error hOutcome]
        rfl

/-- Of what comes in between, two rows are inserted, and one of them satisfies the condition. -/
theorem queries_of_growing_table :
    let before := ["CREATE TABLE t (c TEXT)", "INSERT INTO t ('x')"]
    let between := ["INSERT INTO t ('z')", "INSERT INTO t (1, 2)", "CREATE TABLE t (d INT)",
      "CREATE TABLE u (c TEXT)", "INSERT INTO u ('x')", "INSERT INTO t ('X')"]
    let earlier := empty.executeAll before
    let later := empty.executeAll (before ++ between)
    ((earlier.execute "SELECT * FROM t WHERE c = 'x'").outcome =
        .ok (.found ⟨["c"], [[.text "x"]], .scan, .applied, 1⟩) ∧
      (later.execute "SELECT * FROM t WHERE c = 'x'").outcome =
        .ok (.found ⟨["c"], [[.text "x"], [.text "X"]], .scan, .applied, 3⟩)) ∧
    (earlier.execute "SELECT * FROM t WHERE d = 0").outcome =
        .error (.error (.columnNotFound "t" "d")) ∧
      (later.execute "SELECT * FROM t WHERE d = 0").outcome =
        .error (.error (.columnNotFound "t" "d")) := by
  intro before between earlier later
  have hFound : (earlier.execute "SELECT * FROM t WHERE c = 'x'").outcome =
      .ok (.found ⟨["c"], [[.text "x"]], .scan, .applied, 1⟩) := by decide +kernel
  have hFailed : (earlier.execute "SELECT * FROM t WHERE d = 0").outcome =
      .error (.error (.columnNotFound "t" "d")) := by decide +kernel
  refine ⟨⟨hFound, ?_⟩, hFailed, ?_⟩
  · obtain ⟨query, table, hStatement, hTable, -, -, hLater⟩ :=
      (queries_are_stable before between "SELECT * FROM t WHERE c = 'x'").1 _ hFound
    have hQuery : Statement.ofText "SELECT * FROM t WHERE c = 'x'" =
        .ok (.select ⟨"t", .all, some "c = 'x'", []⟩) := by decide +kernel
    cases hStatement.symm.trans hQuery
    have hName : earlier.table? "t" = some ⟨"t", [⟨"c", .text "TEXT", false⟩], [[.text "x"]]⟩ := by
      decide +kernel
    cases hTable.symm.trans hName
    rw [hLater]
    decide +kernel
  · have hQuery : ∃ query, Statement.ofText "SELECT * FROM t WHERE d = 0" = .ok (.select query) :=
      ⟨⟨"t", .all, some "d = 0", []⟩, by decide +kernel⟩
    exact ((queries_are_stable before between "SELECT * FROM t WHERE d = 0").2 _ hFailed (.inr hQuery)
      (by simp)).2

end Database

end TableStore
