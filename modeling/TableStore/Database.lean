import TableStore.Table

/-! # Databases

A database maps names to tables, in the order of their creation. Tables are never dropped and rows
are never changed: a statement adds one table, adds one row, or leaves everything as it is.
-/

namespace TableStore

set_option autoImplicit false

structure Database where
  entries : List (String × Table)
deriving DecidableEq

/-- A change that may fail. Whatever it has changed by then is not taken back. -/
abbrev Change (α : Type) : Type :=
  EStateM Error Database α

/-- If the change fails, the database is as it was. -/
def Change.Atomic {α : Type} (change : Change α) : Prop :=
  ∀ {database changed : Database} {error : Error},
    change.run database = .error error changed → changed = database

/-- The first name that equals an earlier one. The first list holds the names seen so far. -/
def firstRepeated? (seen : List String) : List String → Option String
  | [] => none
  | name :: names => if seen.contains name then some name else firstRepeated? (name :: seen) names

namespace Database

def empty : Database where
  entries := []

def table? (database : Database) (name : String) : Option Table :=
  database.entries.lookup name

def table (database : Database) (name : String) : Except Error Table :=
  match database.table? name with
  | none => .error (.tableNotFound name)
  | some table => .ok table

/-- The names of the tables in the order of their code points. -/
def tableNames (database : Database) : List String :=
  (database.entries.map Prod.fst).mergeSort fun left right => left ≤ right

/-- The tables in the order of their names. -/
def tables (database : Database) : List Table :=
  database.tableNames.filterMap database.table?

def append (database : Database) (name : String) (row : Row) : Database where
  entries := database.entries.map fun (key, table) =>
    (key, if key == name then table.append row else table)

theorem table?_append (database : Database) (name key : String) (row : Row) :
    (database.append name row).table? key =
      (database.table? key).map fun table => if key == name then table.append row else table := by
  obtain ⟨entries⟩ := database
  simp only [append, table?]
  induction entries with
  | nil => rfl
  | cons entry entries ih =>
    obtain ⟨first, table⟩ := entry
    by_cases same : key = first
    · subst same
      simp
    · have differs : (key == first) = false := beq_false_of_ne same
      simpa only [List.map_cons, List.lookup_cons, differs] using ih

/-- Adds an empty table, unless the name is taken or a column repeats the name of another. -/
def create (name : String) (columns : List Column) : Change Unit := do
  if ((← get).table? name).isSome then throw (.tableExists name)
  if let some column := firstRepeated? [] (columns.map Column.name) then throw (.repeatedColumn column)
  modify fun database => ⟨database.entries ++ [(name, { name, columns, rows := [] })]⟩

/-- Reads all literals before a row is appended, and gives the row. -/
def insert (name : String) (literals : List Literal) : Change Row := do
  let table ← MonadExcept.ofExcept ((← get).table name)
  let row ← MonadExcept.ofExcept (table.readRow literals)
  modify fun database => database.append name row
  return row

theorem create_run (database : Database) (name : String) (columns : List Column) :
    (create name columns).run database =
      if (database.table? name).isSome then .error (.tableExists name) database
      else
        match firstRepeated? [] (columns.map Column.name) with
        | some column => .error (.repeatedColumn column) database
        | none => .ok () ⟨database.entries ++ [(name, { name, columns, rows := [] })]⟩ := by
  rw [create]
  cases hTable : (database.table? name).isSome with
  | true => simp [hTable]
  | false =>
    cases hRepeated : firstRepeated? [] (columns.map Column.name) with
    | some column => simp [hTable]
    | none => simp [hTable]

theorem ofExcept_run {α : Type} (database : Database) (result : Except Error α) :
    (MonadExcept.ofExcept result : Change α).run database =
      match result with
      | .error error => .error error database
      | .ok a => .ok a database := by
  cases result <;> rfl

theorem insert_run (database : Database) (name : String) (literals : List Literal) :
    (insert name literals).run database =
      match database.table name with
      | .error error => .error error database
      | .ok table =>
        match table.readRow literals with
        | .error error => .error error database
        | .ok row => .ok row (database.append name row) := by
  simp only [insert, EStateM.run_bind, EStateM.run_get, ofExcept_run]
  cases database.table name with
  | error error => rfl
  | ok table => cases hRow : table.readRow literals <;> simp [hRow]

/-- The table is added behind all checks. -/
theorem create_atomic (name : String) (columns : List Column) : (create name columns).Atomic := by
  intro database changed error h
  rw [create_run] at h
  split at h
  · cases h
    rfl
  · split at h
    · cases h
      rfl
    · cases h

/-- The row is appended behind all checks. -/
theorem insert_atomic (name : String) (literals : List Literal) : (insert name literals).Atomic := by
  intro database changed error h
  rw [insert_run] at h
  split at h
  · cases h
    rfl
  · split at h
    · cases h
      rfl
    · cases h

theorem create_eq_ok {database changed : Database} {name : String} {columns : List Column}
    (h : (create name columns).run database = .ok () changed) :
    database.table? name = none ∧ firstRepeated? [] (columns.map Column.name) = none ∧
      changed.entries = database.entries ++ [(name, { name, columns, rows := [] })] := by
  rw [create_run] at h
  split at h
  · cases h
  · next absent =>
    split at h
    · cases h
    · next distinct =>
      cases h
      exact ⟨by simpa using absent, distinct, rfl⟩

end Database

end TableStore
