import TableStore.Proofs.Console.Entry
import TableStore.Proofs.Database.Step

/-! # What commands show

An entry that neither ends the session nor is a statement shows one text, which can be told from the entry
and the store: the help, the names of the tables in order, a table with its columns, or what is wrong with
the command.
-/

namespace TableStore.Console

open Text

set_option autoImplicit false

def shownColumn (column : Column) : String :=
  "  - " ++ column.name ++ " " ++ column.type.name ++ if column.indexed then " INDEXED\n" else "\n"

/-- The text that an entry shows which neither ends the session nor is a statement. -/
inductive Shows (database : Database) : Entry → String → Prop
  | interrupt : Shows database .interrupt "\n"
  | blank {text : String} : strip text = "" → Shows database (.line text) ""
  | help {text name : String} {rest : List String} :
      pieces text = name :: rest → lower name = ".help" → Shows database (.line text) commandHelp
  | noTables {text name : String} {rest : List String} :
      pieces text = name :: rest → lower name = ".tables" → database.entries = [] →
      Shows database (.line text) "(no tables)\n"
  | tables {text name : String} {rest tables : List String} :
      pieces text = name :: rest → lower name = ".tables" → tables ≠ [] → tables.Pairwise (· < ·) →
      (∀ table, table ∈ tables ↔ table ∈ database.entries.map Prod.fst) →
      Shows database (.line text) (String.join (tables.map (· ++ "\n")))
  | noTable {text name table : String} :
      pieces text = [name, table] → lower name = ".schema" → table ∉ database.entries.map Prod.fst →
      Shows database (.line text) ("Table not found: " ++ table ++ "\n")
  | schema {text name key : String} {table : Table} :
      pieces text = [name, key] → lower name = ".schema" → (key, table) ∈ database.entries →
      Shows database (.line text)
        ("TABLE " ++ key ++ " (" ++ toString table.rows.length ++ " rows)\n" ++
          String.join (table.columns.map shownColumn))
  | schemaUsage {text name : String} {rest : List String} :
      pieces text = name :: rest → lower name = ".schema" → rest.length ≠ 1 →
      Shows database (.line text) "Usage: .schema <table>\n"
  | unknown {text name : String} {rest : List String} :
      (strip text).toList.head? = some '.' → pieces text = name :: rest →
      lower name ∉ [".help", ".tables", ".schema", ".exit", ".quit"] →
      Shows database (.line text) ("Unknown command: " ++ lower name ++ ". Type .help\n")

section

variable {database : Database} {text name : String} {rest : List String}

theorem linesText_cons (line : String) (lines : List String) :
    linesText (line :: lines) = line ++ "\n" ++ linesText lines :=
  String.join_cons

theorem columnLine_append (column : Column) : columnLine column ++ "\n" = shownColumn column := by
  rw [columnLine, shownColumn]
  cases column.indexed <;> simp [String.append_assoc, toString]

theorem schemaText_eq (table : Table) :
    schemaText table =
      "TABLE " ++ table.name ++ " (" ++ toString table.rows.length ++ " rows)\n" ++
        String.join (table.columns.map shownColumn) := by
  have hColumns : linesText (table.columns.map columnLine) = String.join (table.columns.map shownColumn) := by
    rw [linesText, List.map_map]
    exact congrArg String.join (List.map_congr_left fun column _ => columnLine_append column)
  rw [schemaText, linesText_cons, hColumns]
  simp [String.append_assoc, toString]

theorem shows_tableList (h : database.WellFormed) (hPieces : pieces text = name :: rest)
    (hName : lower name = ".tables") : Shows database (.line text) (tableList database) := by
  rw [tableList]
  split
  · next hNone =>
    have hKeys : database.entries.map Prod.fst = [] := by
      rw [List.eq_nil_iff_forall_not_mem]
      intro table hTable
      rw [← Database.mem_tableNames_iff, hNone] at hTable
      cases hTable
    exact .noTables hPieces hName (List.map_eq_nil_iff.mp hKeys)
  · next hSome =>
    exact .tables hPieces hName hSome h.pairwise_tableNames fun _ => Database.mem_tableNames_iff

theorem output_schema (database : Database) (table : String) :
    (Command.schema table).output database =
      match database.table? table with
      | none => s!"Table not found: {table}\n"
      | some found => schemaText found :=
  rfl

theorem shows_schema (h : database.WellFormed) {table : String} (hPieces : pieces text = [name, table])
    (hName : lower name = ".schema") :
    Shows database (.line text) ((Command.schema table).output database) := by
  rw [output_schema]
  split
  · next hAbsent => exact .noTable hPieces hName (Database.not_mem_keys_of_table?_eq_none hAbsent)
  · next found hFound =>
    obtain ⟨-, hKey⟩ := h.of_table? hFound
    rw [schemaText_eq, hKey]
    exact .schema hPieces hName (Database.mem_entries_of_table? hFound)

/-- A command that does not leave shows its text. By cases on its name. -/
theorem shows_command (h : database.WellFormed) (hDot : (strip text).toList.head? = some '.')
    (hStays : (pieces text).head?.any leaves = false) :
    Shows database (.line text) ((Command.ofPieces (pieces text)).output database) := by
  obtain ⟨tail, hText⟩ := List.head?_eq_some_iff.mp hDot
  obtain ⟨name, rest, hPieces, -⟩ := exists_pieces_of_strip hText
  rw [hPieces, List.head?_cons, Option.any_some, leaves, Bool.or_eq_false_iff] at hStays
  obtain ⟨hExit, hQuit⟩ := hStays
  rw [hPieces, Command.ofPieces.eq_def]
  dsimp only
  split
  · next hName => simp [hName] at hExit
  · next hName => simp [hName] at hQuit
  · next hName => exact .help hPieces hName
  · next hName => exact shows_tableList h hPieces hName
  · next hName =>
    split
    · next table => exact shows_schema h hPieces hName
    · next hOther =>
      refine .schemaUsage hPieces hName fun hLength => ?_
      obtain ⟨table, hTable⟩ := List.length_eq_one_iff.mp hLength
      exact hOther table hTable
  · next hExit hQuit hHelp hTables hSchema =>
    exact .unknown hDot hPieces (by simpa using ⟨hHelp, hTables, hSchema, hExit, hQuit⟩)

end

end TableStore.Console
