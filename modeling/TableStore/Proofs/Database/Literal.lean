import TableStore.Proofs.Database.Step
import TableStore.Proofs.Table.Checks
import TableStore.Proofs.Table.ConditionText

/-! # Literals in conditions and insertions

A literal without blanks means the same in a condition as in an insertion: the condition fails on the
type exactly if the insertion would, and else it compares with the cell that the insertion would
store. With a blank inside the literal the condition is ignored.
-/

namespace TableStore

open Text

set_option autoImplicit false

/-- The cell that an insertion stores for a token, if the column takes it. -/
def Column.stored? (column : Column) (token : Token) : Option Cell :=
  (Literal.ofToken? token).bind fun literal => column.type.read? literal.text

namespace Token

variable {token : Token}

theorem Written.spells (h : token.Written) (hKind : token.kind = .string ∨ token.kind = .number) :
    token.kind.Spells token.value.toList := by
  rw [Token.Written] at h
  rcases hKind with hKind | hKind
  · rw [hKind] at h ⊢
    exact h
  · rw [hKind] at h ⊢
    exact h

theorem Written.isQuoted_of_blank (h : token.Written)
    (hKind : token.kind = .string ∨ token.kind = .number) {blank : Char}
    (hMember : blank ∈ token.value.toList) (hBlank : isBlank blank = true) :
    IsQuoted token.value.toList := by
  rw [Token.Written] at h
  rcases hKind with hKind | hKind
  · rw [hKind] at h
    exact h
  · rw [hKind] at h
    rw [IsNumber.isBlank_eq_false h blank hMember] at hBlank
    cases hBlank

end Token

theorem Column.stored?_of_kind {token : Token} (column : Column)
    (hKind : token.kind = .string ∨ token.kind = .number) :
    column.stored? token = column.type.read? (unquote token.value) := by
  rcases hKind with hKind | hKind <;> simp [Column.stored?, Literal.ofToken?, hKind]

namespace Database

variable {database : Database} {text name : String} {table : Table}

/-- The text selects by the condition, and blanks in the literal decide if there is one. -/
theorem WellFormed.outcome_of_selectionText (h : database.WellFormed)
    (hTable : database.table? name = some table) {index : Nat} {column : Column}
    (hColumn : table.columns[index]? = some column) (comparison : Comparison)
    (hName : ¬SpellsKeyword name.toList) (hColumnName : ¬SpellsKeyword column.name.toList)
    {token : Token} (hWritten : token.Written) (hKind : token.kind = .string ∨ token.kind = .number) :
    (database.execute (selectionText name column.name comparison token.value)).outcome =
      if token.value.toList.any isBlank then .ok (.found (table.allRows .ignored table.rows))
      else
        match column.stored? token with
        | none => .error (.error (.invalidInteger (unquote token.value)))
        | some value => .ok (.found (table.allRows .applied (table.rows.filter fun row =>
            row[index]?.any fun cell => column.type.compares comparison cell value))) := by
  obtain ⟨hTableFormed, rfl⟩ := h.of_table? hTable
  have hColumnFormed := hTableFormed.columns_wellFormed column (List.mem_of_getElem? hColumn)
  have hNotKeyword : token.kind ≠ .keyword := by rcases hKind with hKind | hKind <;> simp [hKind]
  have hNotSymbol : token.kind ≠ .symbol := by rcases hKind with hKind | hKind <;> simp [hKind]
  have hSpells := hWritten.spells hKind
  have hStatement := Statement.ofText_selectionText comparison hTableFormed.name_isName hName
    hColumnFormed.name_isName hColumnName hNotKeyword hNotSymbol hSpells
  rw [outcome_of_select hStatement hTable]
  split
  · next hBlanks =>
    obtain ⟨blank, hMember, hBlank⟩ := List.any_eq_true.mp hBlanks
    have hQuoted := hWritten.isQuoted_of_blank hKind hMember hBlank
    rw [hTableFormed.answer_of_blank hColumn comparison hQuoted hMember hBlank rfl]
    rfl
  · next hBlanks =>
    have hWord : ∀ c ∈ token.value.toList, isBlank c = false := by simpa using hBlanks
    have hNonempty : token.value ≠ "" := by
      obtain ⟨first, rest, hText, -⟩ := hSpells.head_not_blank
      intro hEmpty
      simp [hEmpty] at hText
    rw [hTableFormed.answer_of_word hColumn comparison hNonempty hWord rfl, column.stored?_of_kind hKind]
    cases column.type.read? (unquote token.value) <;> rfl

/-- An insertion stores the literal of a column, or fails because of it or of another column. -/
theorem reply_of_insertion (hTable : database.table? name = some table) {index : Nat}
    {column : Column} (hColumn : table.columns[index]? = some column) {token : Token}
    (hKind : token.kind = .string ∨ token.kind = .number) {literals : List Literal}
    (hStatement : Statement.ofText text = .ok (.insert name literals))
    (hLength : literals.length = table.columns.length)
    (hLiteral : literals[index]? = Literal.ofToken? token) :
    (∃ row value, (database.execute text).outcome = .ok .inserted ∧
        (database.execute text).database = database.append name row ∧
        row[index]? = some value ∧ column.stored? token = some value) ∨
      ∃ (other : Nat) (otherColumn : Column) (literal : Literal),
        table.columns[other]? = some otherColumn ∧ literals[other]? = some literal ∧
        otherColumn.type.read? literal.text = none ∧
        (database.execute text).outcome =
          .error (.error (.wrongType table.name otherColumn.name otherColumn.type literal.text)) := by
  have hReadRow : table.readRow literals = Table.readCells table.name table.columns literals := by
    rw [Table.readRow, if_pos (beq_iff_eq.mpr hLength)]
  have hSome : ∃ literal, Literal.ofToken? token = some literal := by
    rcases hKind with hKind | hKind <;> simp [Literal.ofToken?, hKind]
  obtain ⟨literal, hOfToken⟩ := hSome
  cases hRow : table.readRow literals with
  | ok row =>
    obtain ⟨hOutcome, hDatabase⟩ := reply_of_insert_ok hStatement hTable hRow
    rw [hReadRow] at hRow
    obtain ⟨value, hCell, hValue⟩ := Table.getElem?_of_readCells hRow hColumn (hLiteral.trans hOfToken)
    exact .inl ⟨row, value, hOutcome, hDatabase, hCell, by simpa [Column.stored?, hOfToken] using hValue⟩
  | error error =>
    have hOutcome := reply_of_insert_error hStatement hTable hRow
    rw [hReadRow] at hRow
    obtain ⟨otherColumn, found, hFirst, rfl⟩ := Table.readCells_eq_error_iff.mp hRow
    obtain ⟨other, hOther, hFound, hRead⟩ := hFirst.exists_index
    exact .inr ⟨other, otherColumn, found, hOther, hFound, hRead, hOutcome⟩

theorem insertion_of_stored?_eq_none (hTable : database.table? name = some table) {index : Nat}
    {column : Column} (hColumn : table.columns[index]? = some column) {token : Token}
    (hKind : token.kind = .string ∨ token.kind = .number) (hStored : column.stored? token = none)
    {literals : List Literal} (hStatement : Statement.ofText text = .ok (.insert name literals))
    (hLength : literals.length = table.columns.length)
    (hLiteral : literals[index]? = Literal.ofToken? token) :
    ∃ error, (database.execute text).outcome = .error (.error error) ∧ error.kind = .typeMismatch := by
  rcases reply_of_insertion hTable hColumn hKind hStatement hLength hLiteral with
    ⟨row, value, -, -, -, hValue⟩ | ⟨other, otherColumn, literal, -, -, -, hOutcome⟩
  · rw [hStored] at hValue
    cases hValue
  · exact ⟨_, hOutcome, rfl⟩

theorem insertion_of_stored?_eq_some (hTable : database.table? name = some table)
    (hName : table.name = name) {index : Nat} {column : Column}
    (hColumn : table.columns[index]? = some column) {token : Token}
    (hKind : token.kind = .string ∨ token.kind = .number) {value : Cell}
    (hStored : column.stored? token = some value) {literals : List Literal}
    (hStatement : Statement.ofText text = .ok (.insert name literals))
    (hLength : literals.length = table.columns.length)
    (hLiteral : literals[index]? = Literal.ofToken? token) :
    (∃ row, (database.execute text).outcome = .ok .inserted ∧
        (database.execute text).database = database.append name row ∧ row[index]? = some value) ∨
      ∃ (other : Nat) (otherColumn : Column) (literal : Literal), other ≠ index ∧
        table.columns[other]? = some otherColumn ∧ literals[other]? = some literal ∧
        otherColumn.type.read? literal.text = none ∧
        (database.execute text).outcome =
          .error (.error (.wrongType name otherColumn.name otherColumn.type literal.text)) := by
  subst hName
  rcases reply_of_insertion hTable hColumn hKind hStatement hLength hLiteral with
    ⟨row, cell, hOutcome, hChanged, hCell, hValue⟩ |
    ⟨other, otherColumn, literal, hOther, hFound, hRead, hOutcome⟩
  · rw [hStored] at hValue
    cases hValue
    exact .inl ⟨row, hOutcome, hChanged, hCell⟩
  · refine .inr ⟨other, otherColumn, literal, ?_, hOther, hFound, hRead, hOutcome⟩
    rintro rfl
    -- The literal at the place of the column is the one that it stores.
    rw [hColumn] at hOther
    cases hOther
    rw [hLiteral] at hFound
    simp [Column.stored?, hFound, hRead] at hStored

/-- For a table and a column of it whose names are not reserved, and for a string or a number `token`:
if it has no blank, selecting by it fails on the type exactly if inserting it into the column does, and
else answers the rows whose cell compares with the cell that an insertion stores for it. If it has a
blank, all rows are answered and the condition is ignored. -/
theorem condition_literal_iff_insertion (texts : List String) (source : String) {name : String}
    {table : Table} {index : Nat} {column : Column} {token : Token} (comparison : Comparison)
    (hTable : (empty.executeAll texts).table? name = some table)
    (hColumn : table.columns[index]? = some column) (hName : ¬SpellsKeyword name.toList)
    (hColumnName : ¬SpellsKeyword column.name.toList) (hToken : token ∈ tokens source)
    (hKind : token.kind = .string ∨ token.kind = .number) :
    let database := empty.executeAll texts
    let outcome := (database.execute (selectionText name column.name comparison token.value)).outcome
    (if token.value.toList.any isBlank then
        outcome = .ok (.found (table.allRows .ignored table.rows))
      else
        match column.stored? token with
        | none => ∃ error, outcome = .error (.error error) ∧ error.kind = .typeMismatch
        | some value => outcome = .ok (.found (table.allRows .applied (table.rows.filter fun row =>
            row[index]?.any fun cell => column.type.compares comparison cell value)))) ∧
      ∀ insertion literals, Statement.ofText insertion = .ok (.insert name literals) →
        literals.length = table.columns.length → literals[index]? = Literal.ofToken? token →
        let reply := database.execute insertion
        match column.stored? token with
        | none => ∃ error, reply.outcome = .error (.error error) ∧ error.kind = .typeMismatch
        | some value =>
          (∃ row, reply.outcome = .ok .inserted ∧ reply.database = database.append name row ∧
            row[index]? = some value) ∨
          ∃ (other : Nat) (otherColumn : Column) (literal : Literal), other ≠ index ∧
            table.columns[other]? = some otherColumn ∧ literals[other]? = some literal ∧
            otherColumn.type.read? literal.text = none ∧
            reply.outcome =
              .error (.error (.wrongType name otherColumn.name otherColumn.type literal.text)) := by
  intro database outcome
  have hDatabase : database.WellFormed := wellFormed_of_empty texts
  constructor
  · have hOutcome : outcome = _ := hDatabase.outcome_of_selectionText hTable hColumn comparison hName
      hColumnName (written_of_mem_tokens hToken) hKind
    clear_value outcome
    rw [hOutcome]
    split
    · rfl
    · cases column.stored? token with
      | none => exact ⟨_, rfl, rfl⟩
      | some value => rfl
  · intro insertion literals hStatement hLength hLiteral reply
    cases hStored : column.stored? token with
    | none => exact insertion_of_stored?_eq_none hTable hColumn hKind hStored hStatement hLength hLiteral
    | some value =>
      exact insertion_of_stored?_eq_some hTable (hDatabase.of_table? hTable).2 hColumn hKind hStored
        hStatement hLength hLiteral

theorem condition_literal_selects_inserted :
    let database := empty.executeAll ["CREATE TABLE t (c TEXT)", "INSERT INTO t ('x')"]
    (database.execute "SELECT * FROM t WHERE c = 'X'").outcome =
        .ok (.found ⟨["c"], [[.text "x"]], .scan, .applied, 1⟩) ∧
      ∃ row, (database.execute "INSERT INTO t ('X')").outcome = .ok .inserted ∧
        (database.execute "INSERT INTO t ('X')").database = database.append "t" row ∧
        row[0]? = some (.text "X") := by
  intro database
  have hTable : database.table? "t" = some ⟨"t", [⟨"c", .text "TEXT", false⟩], [[.text "x"]]⟩ := by
    decide +kernel
  have hColumn : [(⟨"c", .text "TEXT", false⟩ : Column)][0]? = some ⟨"c", .text "TEXT", false⟩ := rfl
  have hToken : ⟨.string, "'X'", .start⟩ ∈ tokens "'X'" := by decide +kernel
  obtain ⟨hSelected, hInserted⟩ := condition_literal_iff_insertion _ "'X'" .equal hTable hColumn
    (by decide) (by decide) hToken (.inl rfl)
  have hBlank : "'X'".toList.any isBlank = false := by decide
  have hStored : Column.stored? ⟨"c", .text "TEXT", false⟩ ⟨.string, "'X'", .start⟩ =
      some (.text "X") := by decide +kernel
  simp only [hBlank, hStored, Bool.false_eq_true, if_false] at hSelected hInserted
  constructor
  · have hText : selectionText "t" "c" .equal "'X'" = "SELECT * FROM t WHERE c = 'X'" := by decide
    rw [hText] at hSelected
    rw [hSelected]
    decide +kernel
  · rcases hInserted "INSERT INTO t ('X')" [⟨.string, "X"⟩] (by decide +kernel) rfl
      (by decide +kernel) with hRow | ⟨other, otherColumn, _, hOther, hFound, _⟩
    · exact hRow
    · cases other with
      | zero => exact absurd rfl hOther
      | succ other => cases hFound

/-- Not every such condition is applied: the literal may hold a blank. -/
theorem condition_literal_may_be_ignored :
    ¬∀ (texts : List String) (source name : String) (table : Table) (index : Nat) (column : Column)
      (token : Token) (comparison : Comparison),
      (empty.executeAll texts).table? name = some table → table.columns[index]? = some column →
      ¬SpellsKeyword name.toList → ¬SpellsKeyword column.name.toList → token ∈ tokens source →
      token.kind = .string ∨ token.kind = .number →
      let outcome := ((empty.executeAll texts).execute
        (selectionText name column.name comparison token.value)).outcome
      match column.stored? token with
      | none => ∃ error, outcome = .error (.error error) ∧ error.kind = .typeMismatch
      | some value => outcome = .ok (.found (table.allRows .applied (table.rows.filter fun row =>
          row[index]?.any fun cell => column.type.compares comparison cell value))) := by
  intro hEvery
  have hApplied := hEvery ["CREATE TABLE t (c TEXT)", "INSERT INTO t ('x')"] "'a b'" "t"
    ⟨"t", [⟨"c", .text "TEXT", false⟩], [[.text "x"]]⟩ 0 ⟨"c", .text "TEXT", false⟩
    ⟨.string, "'a b'", .start⟩ .equal (by decide +kernel) rfl (by decide) (by decide)
    (by decide +kernel) (.inl rfl)
  have hIgnored : ((empty.executeAll ["CREATE TABLE t (c TEXT)", "INSERT INTO t ('x')"]).execute
      (selectionText "t" "c" .equal "'a b'")).outcome =
      .ok (.found ⟨["c"], [[.text "x"]], .scan, .ignored, 1⟩) := by decide +kernel
  have hStored : Column.stored? ⟨"c", .text "TEXT", false⟩ ⟨.string, "'a b'", .start⟩ =
      some (.text "a b") := by decide +kernel
  simp only [hStored, hIgnored] at hApplied
  cases hApplied

end Database

end TableStore
