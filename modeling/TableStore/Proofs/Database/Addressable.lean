import TableStore.Proofs.Database.Literal
import TableStore.Proofs.Token.Reserved

/-! # Tables that can be asked for

All rows of a table are found by its name, and each of its columns can stand in a condition, if these
names are not reserved words. They never are when no text runs a reserved word into a letter or a
number beyond ASCII; one such text is enough to make a table that no query reaches.
-/

namespace TableStore

open Text

set_option autoImplicit false

namespace Statement

/-- The statement gives no reserved word as a name. -/
def Unreserved : Statement → Prop
  | .create table columns =>
    ¬SpellsKeyword table.toList ∧ ∀ column ∈ columns, ¬SpellsKeyword column.name.toList
  | .insert _ _ => True
  | .select _ => True
  | .other _ => True

theorem Sentence.unreserved {form : Form} {tokens : List Token} {statement : Statement}
    (h : Sentence form tokens statement)
    (hTokens : ∀ token ∈ tokens, token.isIdentifier → ¬SpellsKeyword token.value.toList) :
    statement.Unreserved := by
  cases h with
  | create _ _ hName _ hColumns _ _ =>
    refine ⟨hTokens _ (by simp) hName, ?_⟩
    have hColumn : ∀ (tokens : List Token) (column : Column), ColumnPhrase tokens column →
        (∀ token ∈ tokens, token.isIdentifier → ¬SpellsKeyword token.value.toList) →
        ¬SpellsKeyword column.name.toList := by
      intro tokens column hPhrase hParts
      cases hPhrase with
      | intro hColumnName _ _ => exact hParts _ List.mem_cons_self hColumnName
    exact (hColumns.forall_value hColumn fun token hToken => hTokens token (by simp [hToken])).2
  | insert _ _ _ _ _ _ _ _ => trivial
  | select _ _ _ _ _ _ _ => trivial

theorem unreserved_of_ofText {text : String} {statement : Statement} (h : ofText text = .ok statement)
    (hText : ¬ProlongsKeyword text.toList) : statement.Unreserved := by
  obtain ⟨form, hSentence⟩ := ofText_eq_ok_iff.mp h
  exact hSentence.unreserved fun _ hToken hKind => not_spellsKeyword_of_mem_tokens hToken hKind hText

end Statement

/-- No reserved word is the name of a table or a column. -/
structure Database.Unreserved (database : Database) : Prop where
  table_names : ∀ entry ∈ database.entries, ¬SpellsKeyword entry.1.toList
  column_names : ∀ entry ∈ database.entries, ∀ column ∈ entry.2.columns,
    ¬SpellsKeyword column.name.toList

theorem ColumnType.exists_read?_zero (type : ColumnType) : ∃ value, type.read? "0" = some value := by
  have hZero : integer? "0" = some 0 := by decide
  cases type with
  | int name => exact ⟨.int 0, congrArg (Option.map Cell.int) hZero⟩
  | text name => exact ⟨.text "0", rfl⟩

namespace Database

theorem exists_mem_of_mem_append {database : Database} {name : String} {row : Row}
    {entry : String × Table} (h : entry ∈ (database.append name row).entries) :
    ∃ old ∈ database.entries, entry.1 = old.1 ∧ entry.2.columns = old.2.columns := by
  obtain ⟨old, hOld, rfl⟩ := List.mem_map.mp h
  refine ⟨old, hOld, rfl, ?_⟩
  by_cases hKey : old.1 == name
  · simp [hKey, Table.append]
  · simp [hKey]

theorem Step.unreserved {database changed : Database} {text : String}
    {outcome : Except Failure Answer} (h : Step database text outcome changed)
    (hDatabase : database.Unreserved) (hText : ¬ProlongsKeyword text.toList) : changed.Unreserved := by
  cases h with
  | failed => exact hDatabase
  | found => exact hDatabase
  | created hStatement _ _ =>
    obtain ⟨hName, hColumns⟩ := Statement.unreserved_of_ofText hStatement hText
    constructor
    · intro entry hEntry
      rcases List.mem_append.mp hEntry with hEntry | hEntry
      · exact hDatabase.table_names entry hEntry
      · rw [List.mem_singleton.mp hEntry]
        exact hName
    · intro entry hEntry
      rcases List.mem_append.mp hEntry with hEntry | hEntry
      · exact hDatabase.column_names entry hEntry
      · rw [List.mem_singleton.mp hEntry]
        exact hColumns
  | inserted _ _ _ =>
    constructor
    · intro entry hEntry
      obtain ⟨old, hOld, hKey, -⟩ := exists_mem_of_mem_append hEntry
      rw [hKey]
      exact hDatabase.table_names old hOld
    · intro entry hEntry
      obtain ⟨old, hOld, -, hColumns⟩ := exists_mem_of_mem_append hEntry
      rw [hColumns]
      exact hDatabase.column_names old hOld

/-- By induction on the statements: none of them gives a reserved word as a name. -/
theorem Unreserved.executeAll {database : Database} (h : database.Unreserved) {texts : List String}
    (hTexts : ∀ text ∈ texts, ¬ProlongsKeyword text.toList) : (database.executeAll texts).Unreserved := by
  induction texts generalizing database with
  | nil => exact h
  | cons text texts ih =>
    have hStep := (execute_step database text).unreserved h (hTexts text List.mem_cons_self)
    exact ih hStep fun other hOther => hTexts other (List.mem_cons_of_mem _ hOther)

theorem Unreserved.empty : Unreserved empty where
  table_names entry hEntry := by cases hEntry
  column_names entry hEntry := by cases hEntry

theorem exists_table?_of_mem_tableNames {database : Database} {name : String}
    (h : name ∈ database.tableNames) : ∃ table, database.table? name = some table := by
  have hKey := mem_tableNames_iff.mp h
  cases hTable : database.table? name with
  | some table => exact ⟨table, rfl⟩
  | none => exact absurd hKey (not_mem_keys_of_table?_eq_none hTable)

theorem WellFormed.outcome_of_tableText {database : Database} (h : database.WellFormed) {name : String}
    {table : Table} (hTable : database.table? name = some table) (hName : ¬SpellsKeyword name.toList) :
    (database.execute (tableText name)).outcome =
      .ok (.found (table.allRows .none table.rows)) := by
  obtain ⟨hTableFormed, rfl⟩ := h.of_table? hTable
  rw [outcome_of_select (Statement.ofText_tableText hTableFormed.name_isName hName) hTable]
  rfl

/-- Every column reads zero, so a condition that compares it with zero fails for no row. -/
theorem WellFormed.outcome_of_zero {database : Database} (h : database.WellFormed) {name : String}
    {table : Table} (hTable : database.table? name = some table) (hName : ¬SpellsKeyword name.toList)
    {index : Nat} {column : Column} (hColumn : table.columns[index]? = some column)
    (hColumnName : ¬SpellsKeyword column.name.toList) :
    ∃ value, column.type.read? "0" = some value ∧
      (database.execute (selectionText name column.name .equal "0")).outcome =
        .ok (.found (table.allRows .applied (table.rows.filter fun row =>
          row[index]?.any fun cell => column.type.compares .equal cell value))) := by
  have hZero : IsNumber "0".toList :=
    ⟨['0'], by simp, List.forall_mem_singleton.mpr (by decide), .inl rfl⟩
  have hWritten : Token.Written ⟨.number, "0", .start⟩ := hZero
  have hOutcome := h.outcome_of_selectionText hTable hColumn .equal hName hColumnName hWritten (.inr rfl)
  have hBlank : "0".toList.any isBlank = false := by decide
  obtain ⟨value, hValue⟩ := column.type.exists_read?_zero
  have hStored : column.stored? ⟨.number, "0", .start⟩ = some value := by
    rw [column.stored?_of_kind (.inr rfl), hZero.unquote_eq, hValue]
  simp only [hBlank, hStored, Bool.false_eq_true, if_false] at hOutcome
  exact ⟨value, hValue, hOutcome⟩

/-- As long as no statement runs a reserved word into a letter or number beyond ASCII, no table and no
column is named by one. Under any name that is no reserved word, all rows of the table are selected,
and each column that has such a name can be compared with zero. -/
theorem unreserved_tables_are_addressable (texts : List String) :
    ((∀ text ∈ texts, ¬ProlongsKeyword text.toList) → (empty.executeAll texts).Unreserved) ∧
      let database := empty.executeAll texts
      ∀ name ∈ database.tableNames, ¬SpellsKeyword name.toList →
        ∃ table, database.table? name = some table ∧
          (database.execute (tableText name)).outcome =
            .ok (.found (table.allRows .none table.rows)) ∧
          ∀ (index : Nat) (column : Column), table.columns[index]? = some column →
            ¬SpellsKeyword column.name.toList →
            ∃ value, column.type.read? "0" = some value ∧
              (database.execute (selectionText name column.name .equal "0")).outcome =
                .ok (.found (table.allRows .applied (table.rows.filter fun row =>
                  row[index]?.any fun cell => column.type.compares .equal cell value))) := by
  refine ⟨Unreserved.empty.executeAll, ?_⟩
  intro database name hListed hName
  have hDatabase : database.WellFormed := wellFormed_of_empty texts
  obtain ⟨table, hTable⟩ := exists_table?_of_mem_tableNames hListed
  refine ⟨table, hTable, hDatabase.outcome_of_tableText hTable hName, ?_⟩
  intro index column hColumn hColumnName
  exact hDatabase.outcome_of_zero hTable hName hColumn hColumnName

/-- A table and columns with names that are parts of ORDER BY. -/
theorem order_table_is_addressable :
    let texts := ["CREATE TABLE order (By int, descent BY)", "INSERT INTO order (0, 'x')"]
    let database := empty.executeAll texts
    (∀ text ∈ texts, ¬ProlongsKeyword text.toList) ∧ database.Unreserved ∧
      (database.execute (tableText "order")).outcome =
        .ok (.found ⟨["By", "descent"], [[.int 0, .text "x"]], .scan, .none, 1⟩) := by
  intro texts database
  have hAscii : ∀ text ∈ texts, ¬ProlongsKeyword text.toList := by
    have hSmall : ∀ text ∈ texts, text.toList.all (·.toNat < 128) = true := by decide
    intro text hText
    apply not_prolongsKeyword_of_ascii
    simpa using hSmall text hText
  obtain ⟨hUnreserved, hSelects⟩ := unreserved_tables_are_addressable texts
  have hListed : "order" ∈ database.tableNames := mem_tableNames_iff.mpr (by decide +kernel)
  obtain ⟨table, hTable, hRows, -⟩ := hSelects "order" hListed (by decide)
  have hFound : database.table? "order" = some ⟨"order", [⟨"By", .int "INT", false⟩,
      ⟨"descent", .text "BY", false⟩], [[.int 0, .text "x"]]⟩ := by decide +kernel
  obtain rfl := Option.some.inj (hTable.symm.trans hFound)
  exact ⟨hAscii, hUnreserved hAscii, hRows⟩

/-- The word ends for names where it does not end for reserved words: right before the accent. -/
theorem reserved_word_can_name_table :
    let database := empty.executeAll ["CREATE TABLE FROMé (a INT)"]
    "FROM" ∈ database.tableNames ∧ SpellsKeyword "FROM".toList ∧
      (database.execute (tableText "FROM")).outcome =
        .error (.error (.malformed (.expected .queriedTable ⟨1, 15⟩))) := by
  refine ⟨mem_tableNames_iff.mpr ?_, ?_, ?_⟩ <;> decide +kernel

end Database

end TableStore
