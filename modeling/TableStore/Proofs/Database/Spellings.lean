import TableStore.Proofs.Database.Growth
import TableStore.Proofs.Statement.RefusedSelection
import TableStore.Proofs.Table.Verdict
import TableStore.Proofs.Table.Writing

/-! # Spellings of a literal

A word or a number in a condition may stand bare or between quotes. The quotes are taken off again, and a
bare word that is reserved is taken in capitals, which no comparison tells apart from the word. So all
spellings select the same rows, or all fail at the same check.
-/

namespace TableStore

open Text

set_option autoImplicit false

/-- The word as it is, in single quotes and in double quotes. -/
def literalSpellings (word : String) : List String :=
  [word, quoted '\'' word, quoted '"' word]

/-- The literal is one token, with a value that is one piece of a condition and does not end it, and that
is like the word when its quotes are off. -/
structure Expresses (literal : String) (kind : TokenKind) (value word : String) : Prop where
  spells : kind.Spells literal.toList
  value_eq : kind.value literal.toList = value
  not_symbol : kind ≠ .symbol
  not_order_by : kind = .keyword → value ≠ Keyword.orderBy.word
  nonempty : value ≠ ""
  no_blank : ∀ c ∈ value.toList, isBlank c = false
  alike : Alike (unquote value) word

variable {word : String}

theorem alike_wordValue (h : IsName word.toList) : Alike (wordValue word) word := by
  rw [wordValue]
  split
  · exact h.alike_upper
  · exact .refl word

theorem IsName.expresses (h : IsName word.toList) (hOrderBy : Text.upper word ≠ Keyword.orderBy.word) :
    Expresses word (wordKind word.toList) (wordValue word) word := by
  have hName := isName_wordValue h
  constructor
  case spells => exact h.spells
  case value_eq => exact value_wordKind word
  case not_symbol => exact wordKind_ne_symbol word.toList
  case not_order_by => exact fun _ => mt (wordValue_eq_word_iff h).mp hOrderBy
  case nonempty => exact fun hEmpty => hName.ne_nil (by rw [hEmpty]; rfl)
  case no_blank => exact hName.isBlank_eq_false
  case alike =>
    rw [unquote_of_plain hName.isQuote_eq_false]
    exact alike_wordValue h

theorem IsNumber.expresses (h : IsNumber word.toList) : Expresses word .number word word := by
  constructor
  case spells => exact h
  case value_eq => exact String.ofList_toList
  case not_symbol => decide
  case not_order_by => nofun
  case nonempty =>
    rintro rfl
    exact h.ne_nil rfl
  case no_blank => exact h.isBlank_eq_false
  case alike =>
    rw [h.unquote_eq]
    exact .refl word

theorem expresses_quoted {quote : Char} (hQuote : isQuote quote = true)
    (hPlain : ∀ c ∈ word.toList, isQuote c = false) (hBlank : ∀ c ∈ word.toList, isBlank c = false) :
    Expresses (quoted quote word) .string (quoted quote word) word := by
  have hQuoted : IsQuoted (quoted quote word).toList := by
    refine isQuoted_quoted hQuote fun hMember => ?_
    rw [hPlain quote hMember] at hQuote
    cases hQuote
  have hChars : (quoted quote word).toList = quote :: (word.toList ++ [quote]) := String.toList_ofList
  constructor
  case spells => exact hQuoted
  case value_eq => exact String.ofList_toList
  case not_symbol => decide
  case not_order_by => nofun
  case nonempty => exact fun hEmpty => hQuoted.ne_nil (by rw [hEmpty]; rfl)
  case no_blank =>
    rw [hChars]
    have hQuoteBlank := isBlank_eq_false_of_isQuote hQuote
    simpa [or_imp, forall_and, hQuoteBlank] using hBlank
  case alike =>
    rw [unquote_quoted hQuote]
    exact .refl word

theorem exists_expresses
    (hWord : IsNumber word.toList ∨ IsName word.toList ∧ upper word ≠ Keyword.orderBy.word) :
    ∀ literal ∈ literalSpellings word, ∃ kind value, Expresses literal kind value word := by
  have hBare : ∃ kind value, Expresses word kind value word := by
    rcases hWord with hNumber | ⟨hName, hOrderBy⟩
    · exact ⟨_, _, hNumber.expresses⟩
    · exact ⟨_, _, hName.expresses hOrderBy⟩
  have hPlain : ∀ c ∈ word.toList, isQuote c = false :=
    hWord.elim IsNumber.isQuote_eq_false fun hName => hName.1.isQuote_eq_false
  have hBlank : ∀ c ∈ word.toList, isBlank c = false :=
    hWord.elim IsNumber.isBlank_eq_false fun hName => hName.1.isBlank_eq_false
  simp only [literalSpellings, List.forall_mem_cons]
  exact ⟨hBare, ⟨_, _, expresses_quoted (by decide) hPlain hBlank⟩,
    ⟨_, _, expresses_quoted (by decide) hPlain hBlank⟩, List.forall_mem_nil _⟩

namespace Database

/-- How the selection from a table by a column and a literal ends. -/
def verdict (database : Database) (name column : String) (comparison : Comparison) (literal : String) :
    Except ErrorKind QueryAnswer :=
  if SpellsKeyword name.toList ∨ upper column = Keyword.orderBy.word then .error .syntactic
  else
    match database.table? name with
    | none => .error .execution
    | some table => table.verdict (wordValue column) comparison literal

variable {database : Database} {name column literal value : String} {kind : TokenKind}

theorem verdict_of_table? {table : Table} {comparison : Comparison}
    (hName : ¬SpellsKeyword name.toList) (hColumn : upper column ≠ Keyword.orderBy.word)
    (hTable : database.table? name = some table) :
    database.verdict name column comparison literal =
      table.verdict (wordValue column) comparison literal := by
  rw [verdict, if_neg (not_or.mpr ⟨hName, hColumn⟩), hTable]

/-- The checks of a selection come in this order: its table's name, its condition, the table itself, and
then what the condition asks of the table. -/
theorem WellFormed.concludes_of_expresses (h : database.WellFormed) (comparison : Comparison)
    (hName : IsName name.toList) (hColumn : IsName column.toList)
    (hLiteral : Expresses literal kind value word) :
    Concludes (database.execute (selectionText name column comparison literal)).outcome
      ((database.verdict name column comparison word).map Answer.found) := by
  by_cases hReserved : SpellsKeyword name.toList
  · obtain ⟨_, hStatement⟩ :=
      Statement.ofText_of_reserved_table comparison hName hReserved hColumn hLiteral.spells
    rw [verdict, if_pos (.inl hReserved)]
    exact ⟨_, outcome_of_malformed hStatement, rfl⟩
  by_cases hOrderBy : upper column = Keyword.orderBy.word
  · obtain ⟨_, hStatement⟩ :=
      Statement.ofText_of_orderBy_column comparison hName hReserved hColumn hOrderBy hLiteral.spells
    rw [verdict, if_pos (.inr hOrderBy)]
    exact ⟨_, outcome_of_malformed hStatement, rfl⟩
  have hStatement := Statement.ofText_of_words comparison hName hReserved hColumn hOrderBy
    hLiteral.spells (hLiteral.value_eq ▸ hLiteral.not_order_by) hLiteral.not_symbol
  rw [hLiteral.value_eq] at hStatement
  cases hTable : database.table? name with
  | none =>
    rw [verdict, if_neg (not_or.mpr ⟨hReserved, hOrderBy⟩), hTable]
    exact ⟨_, outcome_of_absent hStatement hTable, rfl⟩
  | some table =>
    rw [outcome_of_select hStatement hTable, verdict_of_table? hReserved hOrderBy hTable,
      ← Table.verdict_congr hLiteral.alike]
    exact ((h.of_table? hTable).1.answer_concludes (isName_wordValue hColumn) comparison
      hLiteral.nonempty hLiteral.no_blank rfl).map Answer.found

/-- A number, or a word other than ORDER_BY, is the same literal bare, in single quotes and in double
quotes: all three are answered alike, or all three fail with errors of one kind. Where the table has the
column, the rows are those whose cell compares with the word as the column reads it. -/
theorem literal_spellings_agree (texts : List String) {name column word : String}
    (comparison : Comparison) (hName : IsName name.toList) (hColumn : IsName column.toList)
    (hWord : IsNumber word.toList ∨ IsName word.toList ∧ upper word ≠ Keyword.orderBy.word) :
    let database := empty.executeAll texts
    let outcome literal := (database.execute (selectionText name column comparison literal)).outcome
    ((∃ answer, ∀ literal ∈ literalSpellings word, outcome literal = .ok (.found answer)) ∨
      ∃ kind, ∀ literal ∈ literalSpellings word,
        ∃ error, outcome literal = .error (.error error) ∧ error.kind = kind) ∧
    ∀ table (index : Nat) (declared : Column), database.table? name = some table →
      table.columns[index]? = some declared → declared.name = column →
      ¬SpellsKeyword name.toList → ¬SpellsKeyword column.toList →
      ∀ literal ∈ literalSpellings word,
        match declared.type.read? word with
        | none => ∃ error, outcome literal = .error (.error error) ∧ error.kind = .typeMismatch
        | some value =>
          outcome literal = .ok (.found (table.allRows .applied (table.rows.filter fun row =>
            row[index]?.any fun cell => declared.type.compares comparison cell value))) := by
  intro database outcome
  have hDatabase : database.WellFormed := wellFormed_of_empty texts
  have hConcludes : ∀ literal ∈ literalSpellings word, Concludes (outcome literal)
      ((database.verdict name column comparison word).map Answer.found) := by
    intro literal hLiteral
    obtain ⟨kind, value, hExpresses⟩ := exists_expresses hWord literal hLiteral
    exact hDatabase.concludes_of_expresses comparison hName hColumn hExpresses
  clear_value outcome
  constructor
  · cases hVerdict : database.verdict name column comparison word with
    | ok answer =>
      rw [hVerdict] at hConcludes
      exact .inl ⟨answer, hConcludes⟩
    | error kind =>
      rw [hVerdict] at hConcludes
      exact .inr ⟨kind, hConcludes⟩
  · intro table index declared hTable hDeclared hSame hNameFree hColumnFree literal hLiteral
    have hOrderBy := upper_ne_word hColumn hColumnFree .orderBy
    have hFound := (hDatabase.of_table? hTable).1.column?_eq_some_iff.mpr ⟨hDeclared, hSame⟩
    have hAnswer := hConcludes literal hLiteral
    rw [verdict_of_table? hNameFree hOrderBy hTable, wordValue_of_not_spellsKeyword hColumnFree,
      Table.verdict_of_column? hFound] at hAnswer
    cases hRead : declared.type.read? word with
    | none =>
      rw [hRead] at hAnswer
      exact hAnswer
    | some value =>
      rw [hRead] at hAnswer
      exact hAnswer

theorem literal_spellings_of_reserved_word :
    let database := empty.executeAll ["CREATE TABLE t (c TEXT)", "INSERT INTO t ('from')"]
    ∀ text ∈ ["SELECT * FROM t WHERE c = From", "SELECT * FROM t WHERE c = 'From'",
        "SELECT * FROM t WHERE c = \"From\""],
      (database.execute text).outcome =
        .ok (.found ⟨["c"], [[.text "from"]], .scan, .applied, 1⟩) := by
  intro database
  have hName : IsName "t".toList := ⟨'t', [], rfl, by decide, List.forall_mem_nil _⟩
  have hColumnName : IsName "c".toList := ⟨'c', [], rfl, by decide, List.forall_mem_nil _⟩
  have hWord : IsName "From".toList ∧ upper "From" ≠ Keyword.orderBy.word :=
    ⟨⟨'F', ['r', 'o', 'm'], rfl, by decide, List.all_eq_true.mp (by decide)⟩, by decide⟩
  have hTable : database.table? "t" = some ⟨"t", [⟨"c", .text "TEXT", false⟩], [[.text "from"]]⟩ := by
    decide +kernel
  have hColumn : [(⟨"c", .text "TEXT", false⟩ : Column)][0]? = some ⟨"c", .text "TEXT", false⟩ := rfl
  have hAnswered :=
    (literal_spellings_agree _ .equal hName hColumnName (.inr hWord)).2 _ 0 _ hTable hColumn rfl
      (by decide) (by decide)
  have hTexts : ["SELECT * FROM t WHERE c = From", "SELECT * FROM t WHERE c = 'From'",
      "SELECT * FROM t WHERE c = \"From\""] =
      (literalSpellings "From").map (selectionText "t" "c" .equal) := by decide +kernel
  have hRows : Table.allRows ⟨"t", [⟨"c", .text "TEXT", false⟩], [[.text "from"]]⟩ .applied
      (List.filter (fun row : Row => row[0]?.any fun cell =>
        (ColumnType.text "TEXT").compares .equal cell (.text "From")) [[.text "from"]]) =
      ⟨["c"], [[.text "from"]], .scan, .applied, 1⟩ := by decide
  rw [hTexts, List.forall_mem_map]
  intro literal hLiteral
  rw [← hRows]
  exact hAnswered literal hLiteral

end Database

end TableStore
