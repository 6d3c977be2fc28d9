import TableStore.Proofs.Database.Step
import TableStore.Proofs.Table.Writing

/-! # Stores as scripts

A store is written down as a script: for each table its creation and then the insertions of its rows.
On an empty store no statement of the script fails, and the store is there again; if the tables are
written in another order, it is the same store in that order.
-/

namespace TableStore

open Text

set_option autoImplicit false

structure Table.Writable (table : Table) : Prop where
  name_free : ¬SpellsKeyword table.name.toList
  columns_writable : ∀ column ∈ table.columns, column.Writable

instance (table : Table) : Decidable table.Writable :=
  decidable_of_iff
    (¬SpellsKeyword table.name.toList ∧ ∀ column ∈ table.columns, column.Writable)
    ⟨fun ⟨hName, hColumns⟩ => ⟨hName, hColumns⟩, fun ⟨hName, hColumns⟩ => ⟨hName, hColumns⟩⟩

def Table.script (table : Table) : List String :=
  creationText table.name table.columns :: table.rows.map (insertionText table.name)

namespace Database

def script (database : Database) : List String :=
  database.entries.flatMap fun entry => entry.2.script

/-- The statements are carried out one after another, and none of them fails. -/
inductive Runs : Database → List String → Database → Prop
  | nil {database : Database} : Runs database [] database
  | cons {database changed : Database} {text : String} {texts : List String} {answer : Answer} :
      (database.execute text).outcome = .ok answer → Runs (database.execute text).database texts changed →
      Runs database (text :: texts) changed

theorem Runs.append {first second third : Database} {texts others : List String}
    (h : Runs first texts second) (hOthers : Runs second others third) :
    Runs first (texts ++ others) third := by
  induction h with
  | nil => exact hOthers
  | cons hOutcome _ ih => exact .cons hOutcome (ih hOthers)

theorem Runs.executeAll_eq {database changed : Database} {texts : List String}
    (h : Runs database texts changed) : database.executeAll texts = changed := by
  induction h with
  | nil => rfl
  | cons _ _ ih => exact ih

theorem Runs.exists_answer {database changed : Database} {before after : List String} {text : String}
    (h : Runs database (before ++ text :: after) changed) :
    ∃ answer, ((database.executeAll before).execute text).outcome = .ok answer := by
  induction before generalizing database with
  | nil =>
    cases h with
    | cons hOutcome _ => exact ⟨_, hOutcome⟩
  | cons first before ih =>
    cases h with
    | cons _ hRest => exact ih hRest

/-- The order of the tables makes no difference to what is found under a name. -/
theorem WellFormed.perm {database listed : Database} (h : database.WellFormed)
    (hPerm : listed.entries.Perm database.entries) :
    listed.WellFormed ∧ ∀ name, listed.table? name = database.table? name := by
  have hListed : listed.WellFormed := by
    constructor
    · exact (hPerm.map Prod.fst).nodup_iff.mpr h.keys_nodup
    · exact fun entry hEntry => h.key_eq_name entry (hPerm.mem_iff.mp hEntry)
    · exact fun entry hEntry => h.tables_wellFormed entry (hPerm.mem_iff.mp hEntry)
  refine ⟨hListed, fun name => Option.ext fun table => ?_⟩
  rw [hListed.table?_eq_some_iff, h.table?_eq_some_iff, hPerm.mem_iff]

section

variable {table : Table}

theorem runs_creation {database : Database} (hTable : table.WellFormed) (hWritable : table.Writable)
    (hAbsent : database.table? table.name = none) :
    Runs database [creationText table.name table.columns]
      ⟨database.entries ++ [(table.name, { table with rows := [] })]⟩ := by
  have hStatement := ofText_creationText hTable.name_isName hWritable.name_free hTable.columns_ne_nil
    hTable.columns_wellFormed hWritable.columns_writable
  have hDistinct : firstRepeated? [] (table.columns.map Column.name) = none :=
    firstRepeated?_eq_none_iff.mpr ⟨hTable.columnNames_nodup, by simp⟩
  obtain ⟨hOutcome, hChanged⟩ := reply_of_create_ok hStatement hAbsent hDistinct
  refine .cons hOutcome ?_
  rw [hChanged]
  exact .nil

theorem reply_of_insertionText {database : Database} (hTable : table.WellFormed)
    (hName : ¬SpellsKeyword table.name.toList) {stored : Table}
    (hStored : database.table? table.name = some stored) (hColumns : stored.columns = table.columns)
    {row : Row} (hRow : row.Fits table.columns) :
    (database.execute (insertionText table.name row)).outcome = .ok .inserted ∧
      (database.execute (insertionText table.name row)).database = database.append table.name row := by
  have hNonempty : row ≠ [] := by
    rintro rfl
    exact hTable.columns_ne_nil (List.forall₂_nil_right_iff.mp hRow)
  have hStatement := ofText_insertionText hTable.name_isName hName hNonempty hRow.spells
  have hRead : stored.readRow (row.map Cell.literal) = .ok row :=
    Table.readRow_of_fits (by rwa [hColumns])
  exact reply_of_insert_ok hStatement hStored hRead

theorem runs_insertion {database : Database} (hTable : table.WellFormed) (hWritable : table.Writable)
    {stored : Table} (hStored : database.table? table.name = some stored)
    (hColumns : stored.columns = table.columns) {row : Row} (hRow : row.Fits table.columns) :
    Runs database [insertionText table.name row] (database.append table.name row) := by
  obtain ⟨hOutcome, hChanged⟩ :=
    reply_of_insertionText hTable hWritable.name_free hStored hColumns hRow
  refine .cons hOutcome ?_
  rw [hChanged]
  exact .nil

/-- By induction on the rows that are not yet inserted. The rows that are there are any. -/
theorem runs_insertions (hTable : table.WellFormed) (hWritable : table.Writable)
    {before : List (String × Table)} (hBefore : ∀ entry ∈ before, entry.1 ≠ table.name)
    {rows : List Row} (hRows : ∀ row ∈ rows, Row.Fits table.columns row) (done : List Row) :
    Runs ⟨before ++ [(table.name, { table with rows := done })]⟩ (rows.map (insertionText table.name))
      ⟨before ++ [(table.name, { table with rows := done ++ rows })]⟩ := by
  induction rows generalizing done with
  | nil =>
    rw [List.append_nil]
    exact .nil
  | cons row rows ih =>
    have hStored : table? ⟨before ++ [(table.name, { table with rows := done })]⟩ table.name =
        some { table with rows := done } := table?_of_split hBefore
    have hFirst := runs_insertion hTable hWritable hStored rfl (hRows row List.mem_cons_self)
    have hAppended : append ⟨before ++ [(table.name, { table with rows := done })]⟩ table.name row =
        ⟨before ++ [(table.name, { table with rows := done ++ [row] })]⟩ :=
      congrArg Database.mk (append_entries row rfl hBefore (by simp))
    rw [hAppended] at hFirst
    have hOthers := ih (fun other hOther => hRows other (List.mem_cons_of_mem _ hOther)) (done ++ [row])
    rw [List.append_assoc] at hOthers
    exact hFirst.append hOthers

theorem runs_table (hTable : table.WellFormed) (hWritable : table.Writable)
    {before : List (String × Table)} (hBefore : ∀ entry ∈ before, entry.1 ≠ table.name) :
    Runs ⟨before⟩ table.script ⟨before ++ [(table.name, table)]⟩ := by
  have hAbsent : table? ⟨before⟩ table.name = none :=
    List.lookup_eq_none_iff.mpr fun entry hEntry => bne_iff_ne.mpr (hBefore entry hEntry).symm
  exact (runs_creation hTable hWritable hAbsent).append
    (runs_insertions hTable hWritable hBefore hTable.rows_fit [])

end

/-- By induction on the tables that are not yet written. -/
theorem runs_entries {before entries : List (String × Table)}
    (h : WellFormed ⟨before ++ entries⟩) (hWritable : ∀ entry ∈ entries, entry.2.Writable) :
    Runs ⟨before⟩ (entries.flatMap fun entry => entry.2.script) ⟨before ++ entries⟩ := by
  induction entries generalizing before with
  | nil =>
    rw [List.append_nil]
    exact .nil
  | cons entry entries ih =>
    obtain ⟨name, table⟩ := entry
    obtain rfl : name = table.name := h.key_eq_name (name, table) (by simp)
    have hSplit : before ++ (table.name, table) :: entries =
        before ++ [(table.name, table)] ++ entries := by simp
    have hBefore : ∀ entry ∈ before, entry.1 ≠ table.name := fun other hOther =>
      h.forall_ne_of_split rfl other (List.mem_append_left _ hOther)
    have hTable : table.WellFormed := h.tables_wellFormed (table.name, table) (by simp)
    have hFirst := runs_table hTable (hWritable _ List.mem_cons_self) hBefore
    rw [hSplit] at h ⊢
    exact hFirst.append (ih h fun other hOther => hWritable other (List.mem_cons_of_mem _ hOther))

/-- If the names of a store can be written, its script makes the same store from an empty one, in any
order of the tables. -/
theorem script_restores_store (texts : List String)
    (hWritable : ∀ entry ∈ (empty.executeAll texts).entries, entry.2.Writable) :
    let database := empty.executeAll texts
    empty.executeAll database.script = database ∧
      ∀ listed : Database, listed.entries.Perm database.entries →
        (∀ before text after, listed.script = before ++ text :: after →
          ∃ answer, ((empty.executeAll before).execute text).outcome = .ok answer) ∧
        empty.executeAll listed.script = listed ∧
        ∀ name, listed.table? name = database.table? name := by
  intro database
  have hDatabase : database.WellFormed := wellFormed_of_empty texts
  have hRuns : ∀ listed : Database, listed.entries.Perm database.entries →
      Runs empty listed.script listed := by
    intro listed hPerm
    have hListed : listed.WellFormed := (hDatabase.perm hPerm).1
    exact runs_entries hListed fun entry hEntry => hWritable entry (hPerm.mem_iff.mp hEntry)
  refine ⟨(hRuns database (.refl _)).executeAll_eq, fun listed hPerm => ⟨?_, ?_, ?_⟩⟩
  · intro before text after hScript
    have hListed := hRuns listed hPerm
    rw [hScript] at hListed
    exact hListed.exists_answer
  · exact (hRuns listed hPerm).executeAll_eq
  · exact (hDatabase.perm hPerm).2

theorem script_of_quoted_texts :
    let database := empty.executeAll ["create table t(Order int indexed, By text, c Blob)",
      "insert into t values(-07, \"it's\", 'say \"x\"');", "CREATE TABLE u (a INTEGER)",
      "insert into t(٣, '', 'é,)')"]
    let script := ["CREATE TABLE t (Order INT INDEXED, By TEXT, c BLOB)",
      "INSERT INTO t (-7, \"it's\", 'say \"x\"')", "INSERT INTO t (3, '', 'é,)')",
      "CREATE TABLE u (a INTEGER)"]
    let reversed : Database := ⟨database.entries.reverse⟩
    (∀ entry ∈ database.entries, entry.2.Writable) ∧ database.script = script ∧
      empty.executeAll script = database ∧ empty.executeAll reversed.script = reversed := by
  intro database script reversed
  have hWritable : ∀ entry ∈ database.entries, entry.2.Writable := by decide +kernel
  have hScript : database.script = script := by decide +kernel
  obtain ⟨hRestores, hAnyOrder⟩ := script_restores_store _ hWritable
  refine ⟨hWritable, hScript, ?_, (hAnyOrder reversed (List.reverse_perm _)).2.1⟩
  rw [← hScript]
  exact hRestores

end Database

end TableStore
