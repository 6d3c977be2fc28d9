import TableStore.Proofs.Statement.Selection
import TableStore.Proofs.Table.WellFormed
import TableStore.Proofs.Text.Decimal
import TableStore.Proofs.Token.Listing

/-! # Tables and rows as they are written

The columns of a table are written as the list of a creation, and the cells of a row as that of an
insertion. Such a text is read as the creation of these columns, or as the insertion of literals that
are read as these cells.
-/

namespace TableStore

open Text

set_option autoImplicit false

def Column.declaration (column : Column) : String :=
  " ".intercalate (column.name :: column.type.name :: if column.indexed then ["INDEXED"] else [])

def creationText (table : String) (columns : List Column) : String :=
  "CREATE TABLE " ++ table ++ " " ++ listText (columns.map Column.declaration)

def quoted (quote : Char) (text : String) : String :=
  String.ofList (quote :: (text.toList ++ [quote]))

namespace Cell

/-- A text is put in single quotes, or in double quotes if it holds a single quote. -/
def written : Cell → String
  | int value => toString value
  | text value => quoted (if '\'' ∈ value.toList then '"' else '\'') value

def literal : Cell → Literal
  | int value => ⟨.number, toString value⟩
  | text value => ⟨.string, value⟩

def tokenKind : Cell → TokenKind
  | int _ => .number
  | text _ => .string

end Cell

def insertionText (table : String) (row : Row) : String :=
  "INSERT INTO " ++ table ++ " " ++ listText (row.map Cell.written)

/-- The names of the column can be written as names: they are not reserved, and side by side they are
not the two words of ORDER BY. -/
structure Column.Writable (column : Column) : Prop where
  name_free : ¬SpellsKeyword column.name.toList
  type_free : ¬SpellsKeyword column.type.name.toList
  not_order_by : column.name.toList.map Char.toUpper = "ORDER".toList → column.type.name ≠ "BY"

instance (column : Column) : Decidable column.Writable :=
  decidable_of_iff
    (¬SpellsKeyword column.name.toList ∧ ¬SpellsKeyword column.type.name.toList ∧
      (column.name.toList.map Char.toUpper = "ORDER".toList → column.type.name ≠ "BY"))
    ⟨fun ⟨hName, hType, hOrder⟩ => ⟨hName, hType, hOrder⟩,
      fun ⟨hName, hType, hOrder⟩ => ⟨hName, hType, hOrder⟩⟩

def Column.spellings (column : Column) : List Spelling :=
  if column.indexed then
    [⟨.identifier, column.name.toList, [' ']⟩, ⟨.identifier, column.type.name.toList, [' ']⟩,
      ⟨.keyword, Keyword.indexed.word.toList, []⟩]
  else [⟨.identifier, column.name.toList, [' ']⟩, ⟨.identifier, column.type.name.toList, []⟩]

def Cell.spellings (cell : Cell) : List Spelling :=
  [⟨cell.tokenKind, cell.written.toList, []⟩]

/-- Two keywords and a name, each with a space after it. -/
def headSpellings (word next : Keyword) (table : String) : List Spelling :=
  [⟨.keyword, word.word.toList, [' ']⟩, ⟨.keyword, next.word.toList, [' ']⟩,
    ⟨.identifier, table.toList, [' ']⟩]

section Columns

variable {column : Column}

theorem Column.toList_declaration (column : Column) :
    column.declaration.toList = column.spellings.flatMap Spelling.chars := by
  cases hIndexed : column.indexed <;>
    simp [declaration, spellings, hIndexed, Spelling.chars, String.intercalate_cons_cons, Keyword.word]

theorem Column.WellFormed.map_toUpper_typeName (h : column.WellFormed) :
    column.type.name.toList.map Char.toUpper = column.type.name.toList := by
  rw [← h.typeName_isName.toList_upper, h.typeName_upper]

theorem Column.WellFormed.spelled (h : column.WellFormed) (hWritable : column.Writable) :
    ∀ spelling ∈ column.spellings, spelling.Spelled := by
  have hName : TokenKind.identifier.Spells column.name.toList := ⟨h.name_isName, hWritable.name_free⟩
  have hType : TokenKind.identifier.Spells column.type.name.toList :=
    ⟨h.typeName_isName, hWritable.type_free⟩
  cases hIndexed : column.indexed with
  | false =>
    simp only [spellings, hIndexed, Bool.false_eq_true, if_false, List.forall_mem_cons]
    exact ⟨⟨hName, isBlank_of_mem_space⟩, ⟨hType, by simp⟩, by simp⟩
  | true =>
    simp only [spellings, hIndexed, if_true, List.forall_mem_cons]
    exact ⟨⟨hName, isBlank_of_mem_space⟩, ⟨hType, isBlank_of_mem_space⟩,
      ⟨Keyword.indexed.spells_word, by simp⟩, by simp⟩

theorem Column.WellFormed.isChain_spellings (h : column.WellFormed) (hWritable : column.Writable) :
    column.spellings.IsChain Spelling.Parted := by
  have hOrder : column.name.toList.map Char.toUpper = ['O', 'R', 'D', 'E', 'R'] →
      column.type.name.toList.map Char.toUpper ≠ ['B', 'Y'] := by
    intro hName hType
    rw [h.map_toUpper_typeName] at hType
    exact hWritable.not_order_by hName (String.toList_inj.mp hType)
  cases hIndexed : column.indexed with
  | false =>
    simp only [spellings, hIndexed, Bool.false_eq_true, if_false, List.isChain_cons_cons]
    exact ⟨⟨.inl (by simp), hOrder⟩, .singleton _⟩
  | true =>
    simp only [spellings, hIndexed, if_true, List.isChain_cons_cons]
    exact ⟨⟨.inl (by simp), hOrder⟩, ⟨.inl (by simp), fun _ => by decide⟩, .singleton _⟩

theorem Column.WellFormed.ofName_typeName (h : column.WellFormed) :
    ColumnType.ofName column.type.name = column.type := by
  have hInt := h.int_iff
  have hUpper := h.typeName_upper
  rw [ColumnType.ofName, hUpper]
  cases hType : column.type with
  | int name =>
    rw [hType] at hInt
    have hName := hInt.mp ⟨name, rfl⟩
    exact if_pos (by simpa [ColumnType.name] using hName)
  | text name =>
    rw [hType] at hInt
    have hName : ¬(name = "INT" ∨ name = "INTEGER") := by
      intro hName
      obtain ⟨other, hOther⟩ := hInt.mpr hName
      cases hOther
    exact if_neg (by simpa [ColumnType.name] using hName)

theorem Column.WellFormed.columnPhrase (h : column.WellFormed) {tokens : List Token}
    (hTokens : tokens.map Token.reading = column.spellings.map Spelling.reading) :
    ColumnPhrase tokens column := by
  have hPhrase : ∀ {name type : Token} {flag : List Token},
      name.reading = (.identifier, column.name) → type.reading = (.identifier, column.type.name) →
      OptionalKeyword .indexed flag column.indexed → ColumnPhrase (name :: type :: flag) column := by
    intro name type flag hName hType hFlag
    obtain ⟨hNameKind, hNameValue⟩ := Token.isIdentifier_of_reading hName
    obtain ⟨hTypeKind, hTypeValue⟩ := Token.isIdentifier_of_reading hType
    have hIntro := ColumnPhrase.intro hNameKind hTypeKind hFlag
    rwa [hNameValue, hTypeValue, h.ofName_typeName] at hIntro
  cases hIndexed : column.indexed with
  | false =>
    rw [hIndexed] at hPhrase
    simp only [spellings, hIndexed, Bool.false_eq_true, if_false, List.map_cons, List.map_nil,
      List.map_eq_cons_iff, List.map_eq_nil_iff, Spelling.reading, TokenKind.value,
      String.ofList_toList] at hTokens
    obtain ⟨name, _, rfl, hName, type, _, rfl, hType, rfl⟩ := hTokens
    exact hPhrase hName hType .absent
  | true =>
    rw [hIndexed] at hPhrase
    simp only [spellings, hIndexed, if_true, List.map_cons, List.map_nil, List.map_eq_cons_iff,
      List.map_eq_nil_iff, Spelling.reading, TokenKind.value, String.ofList_toList,
      Keyword.keywordValue_word] at hTokens
    obtain ⟨name, _, rfl, hName, type, _, rfl, hType, flag, _, rfl, hFlag, rfl⟩ := hTokens
    exact hPhrase hName hType (.present (Token.isKeyword_of_reading hFlag))

end Columns

section Cells

variable {cell : Cell} {type : ColumnType}

theorem isQuoted_quoted {quote : Char} {text : String} (hQuote : isQuote quote = true)
    (hText : quote ∉ text.toList) : IsQuoted (quoted quote text).toList :=
  ⟨quote, text.toList, String.toList_ofList, hQuote, hText⟩

theorem unquote_quoted {quote : Char} (hQuote : isQuote quote = true) (text : String) :
    unquote (quoted quote text) = text := by
  rw [unquote, quoted, String.toList_ofList, unquoteChars_quoted hQuote, String.ofList_toList]

theorem Cell.isQuote_of_text (value : String) :
    isQuote (if '\'' ∈ value.toList then '"' else '\'') = true := by
  split <;> decide

theorem ColumnType.Holds.spells (h : type.Holds cell) : cell.tokenKind.Spells cell.written.toList := by
  cases h with
  | int _ => exact isNumber_toString _
  | @text _ value hLacks =>
    refine isQuoted_quoted (Cell.isQuote_of_text value) ?_
    split
    · next hSingle => exact hLacks.resolve_left (absurd hSingle)
    · next hSingle => exact hSingle

theorem Cell.ofToken?_of_reading {token : Token} (h : token.reading = (cell.tokenKind, cell.written)) :
    Literal.ofToken? token = some cell.literal := by
  obtain ⟨hKind, hValue⟩ := Prod.mk.inj h
  cases cell with
  | int value =>
    have hText : unquote (int value).written = toString value := (isNumber_toString value).unquote_eq
    simp only [Literal.ofToken?, hKind, hValue, tokenKind, hText, literal]
  | text value =>
    have hText : unquote (text value).written = value := unquote_quoted (isQuote_of_text value) value
    simp only [Literal.ofToken?, hKind, hValue, tokenKind, hText, literal]

theorem ColumnType.Holds.read?_literal (h : type.Holds cell) :
    type.read? cell.literal.text = some cell := by
  cases h with
  | int hDigits => exact congrArg (Option.map Cell.int) (integer?_toString hDigits)
  | text _ => rfl

theorem Row.Fits.spells {columns : List Column} {row : Row} (h : row.Fits columns) :
    ∀ cell ∈ row, cell.tokenKind.Spells cell.written.toList := by
  rw [Row.Fits] at h
  induction h with
  | nil => simp
  | cons hCell _ ih => exact List.forall_mem_cons.mpr ⟨hCell.spells, ih⟩

/-- By induction on the columns: each literal is read as the cell that it was written for. -/
theorem Table.readCells_of_fits {columns : List Column} {row : Row} (h : row.Fits columns)
    (table : String) : readCells table columns (row.map Cell.literal) = .ok row := by
  rw [Row.Fits] at h
  induction h with
  | nil => rfl
  | cons hCell _ ih =>
    rw [List.map_cons, readCells, hCell.read?_literal]
    simp only [ih]
    rfl

theorem Table.readRow_of_fits {table : Table} {row : Row} (h : row.Fits table.columns) :
    table.readRow (row.map Cell.literal) = .ok row := by
  have hLength : row.length = table.columns.length := (List.Forall₂.length_eq h).symm
  rw [readRow, if_pos (by simpa using hLength), readCells_of_fits h]

end Cells

/-- A token that is read as the cell. -/
inductive CellPhrase : Phrase Cell
  | intro {token : Token} {cell : Cell} :
      Literal.ofToken? token = some cell.literal → CellPhrase [token] cell

theorem ValuesPhrase.of_literal {token : Token} {tokens : List Token} {literal : Literal}
    {literals : List Literal} (h : Literal.ofToken? token = some literal)
    (hTokens : ValuesPhrase tokens literals) : ValuesPhrase (token :: tokens) (literal :: literals) := by
  rw [Literal.ofToken?] at h
  split at h
  · next hKind =>
    cases h
    exact .string hKind hTokens
  · next hKind =>
    cases h
    exact .number hKind hTokens
  · cases h

theorem FurtherItems.valuesPhrase {tokens : List Token} {row : Row}
    (h : FurtherItems CellPhrase tokens row) : ValuesPhrase tokens (row.map Cell.literal) := by
  induction h with
  | nil => exact .nil
  | @cons comma _ _ _ _ hComma hItem _ ih =>
    obtain ⟨hLiteral⟩ := hItem
    have hKind : comma.kind = .symbol := by
      simp only [Token.isSymbol, Bool.and_eq_true, beq_iff_eq] at hComma
      exact hComma.1
    refine .other (by simp [hKind]) (by simp [hKind]) ?_ (.of_literal hLiteral ih)
    simp [Token.isSymbol_of_isSymbol hComma]

theorem CommaSeparated.valuesPhrase {tokens : List Token} {row : Row}
    (h : CommaSeparated CellPhrase tokens row) : ValuesPhrase tokens (row.map Cell.literal) := by
  cases h with
  | intro hFirst hOthers =>
    obtain ⟨hLiteral⟩ := hFirst
    exact .of_literal hLiteral hOthers.valuesPhrase

section Lists

variable {α : Type} {item : Phrase α} {spell : α → List Spelling}

/-- By induction on the values: between two of them stands a comma. -/
theorem commaSeparated_of_readings {values : List α} (hNonempty : values ≠ [])
    (hItem : ∀ value ∈ values, ∀ tokens : List Token,
      tokens.map Token.reading = (spell value).map Spelling.reading → item tokens value)
    {tokens : List Token}
    (hTokens : tokens.map Token.reading =
      (Spelling.commaList (values.map spell)).map Spelling.reading) :
    CommaSeparated item tokens values := by
  induction values generalizing tokens with
  | nil => exact absurd rfl hNonempty
  | cons value values ih =>
    have hFirst := hItem value List.mem_cons_self
    cases values with
    | nil =>
      simp only [Spelling.commaList, List.map_cons, List.map_nil, List.intercalate_singleton] at hTokens
      rw [← List.append_nil tokens]
      exact .intro (hFirst tokens hTokens) .nil
    | cons next values =>
      rw [Spelling.commaList, List.map_cons, List.map_cons, List.intercalate_cons_cons,
        List.append_assoc, List.map_append, List.map_append, List.map_eq_append_iff] at hTokens
      obtain ⟨front, _, rfl, hFront, hRest⟩ := hTokens
      obtain ⟨comma, rest, rfl, hComma, hOthers⟩ := List.map_eq_cons_iff.mp hRest
      have hSign : comma.isSymbol .comma = true := Token.isSymbol_of_reading hComma
      cases ih (by simp) (fun other hOther => hItem other (List.mem_cons_of_mem _ hOther)) hOthers with
      | intro hNext hFurther => exact .intro (hFirst front hFront) (.cons hSign hNext hFurther)

/-- The tokens of two words, a name and a list in parentheses. -/
theorem exists_parts_of_readings {word next : Keyword} {table : String} {items : List (List Spelling)}
    {tokens : List Token}
    (h : tokens.map Token.reading =
      (Spelling.wordsAndList (headSpellings word next table) items).map Spelling.reading) :
    ∃ (first second name openParen closeParen : Token) (list : List Token),
      tokens = first :: second :: name :: openParen :: (list ++ [closeParen]) ∧
      first.isKeyword word ∧ second.isKeyword next ∧ name.isIdentifier ∧ name.value = table ∧
      openParen.isSymbol .openParen ∧
      list.map Token.reading = (Spelling.commaList items).map Spelling.reading ∧
      closeParen.isSymbol .closeParen := by
  simp only [Spelling.wordsAndList, headSpellings, List.cons_append, List.nil_append, List.map_cons,
    List.map_append, List.map_nil, List.map_eq_cons_iff, List.map_eq_append_iff, Spelling.reading,
    TokenKind.value, String.ofList_toList, Keyword.keywordValue_word] at h
  obtain ⟨first, _, rfl, hFirst, second, _, rfl, hSecond, name, _, rfl, hName, openParen, _, rfl,
    hOpen, list, _, rfl, hList, closeParen, _, rfl, hClose, hEnd⟩ := h
  obtain rfl := List.map_eq_nil_iff.mp hEnd
  obtain ⟨hIdentifier, hValue⟩ := Token.isIdentifier_of_reading hName
  exact ⟨first, second, name, openParen, closeParen, list, rfl, Token.isKeyword_of_reading hFirst,
    Token.isKeyword_of_reading hSecond, hIdentifier, hValue, Token.isSymbol_of_reading hOpen, hList,
    Token.isSymbol_of_reading hClose⟩

end Lists

section Statements

variable {table : String}

theorem spelled_head (word next : Keyword) (hTable : IsName table.toList)
    (hTableFree : ¬SpellsKeyword table.toList) :
    ∀ spelling ∈ headSpellings word next table, spelling.Spelled := by
  simp only [headSpellings, List.forall_mem_cons]
  exact ⟨⟨word.spells_word, isBlank_of_mem_space⟩, ⟨next.spells_word, isBlank_of_mem_space⟩,
    ⟨⟨hTable, hTableFree⟩, isBlank_of_mem_space⟩, by simp⟩

theorem isChain_head (word next : Keyword) (table : String) :
    (headSpellings word next table).IsChain Spelling.Parted := by
  have hOrder : ∀ keyword : Keyword, keyword.word.toList.map Char.toUpper ≠ ['O', 'R', 'D', 'E', 'R'] := by
    intro keyword
    cases keyword <;> decide
  simp only [headSpellings, List.isChain_cons_cons]
  exact ⟨⟨.inl (by simp), fun hWord => absurd hWord (hOrder word)⟩,
    ⟨.inl (by simp), fun hNext => absurd hNext (hOrder next)⟩, .singleton _⟩

theorem ofText_creationText {columns : List Column} (hTable : IsName table.toList)
    (hTableFree : ¬SpellsKeyword table.toList) (hNonempty : columns ≠ [])
    (hColumns : ∀ column ∈ columns, column.WellFormed)
    (hWritable : ∀ column ∈ columns, column.Writable) :
    Statement.ofText (creationText table columns) = .ok (.create table columns) := by
  have hSeparate : Spelling.Separate
      (Spelling.wordsAndList (headSpellings .create .table table) (columns.map Column.spellings)) := by
    refine Spelling.separate_wordsAndList (spelled_head .create .table hTable hTableFree)
      (isChain_head .create .table table) ?_ ?_
    · intro item hItem
      obtain ⟨column, hColumn, rfl⟩ := List.mem_map.mp hItem
      exact (hColumns column hColumn).spelled (hWritable column hColumn)
    · intro item hItem
      obtain ⟨column, hColumn, rfl⟩ := List.mem_map.mp hItem
      exact (hColumns column hColumn).isChain_spellings (hWritable column hColumn)
  have hText : (creationText table columns).toList =
      (Spelling.wordsAndList (headSpellings .create .table table)
        (columns.map Column.spellings)).flatMap Spelling.chars := by
    apply Spelling.flatMap_chars_wordsAndList
    · simp [headSpellings, Spelling.chars, Keyword.word]
    · rw [List.map_map, List.map_map]
      exact List.map_congr_left fun column _ => column.toList_declaration
  refine Statement.ofText_of_separate .create hSeparate hText fun tokens hReadings => ?_
  obtain ⟨first, second, name, openParen, closeParen, list, rfl, hFirst, hSecond, hName, rfl, hOpen,
    hList, hClose⟩ := exists_parts_of_readings hReadings
  have hPhrase : CommaSeparated ColumnPhrase list columns :=
    commaSeparated_of_readings hNonempty (fun column hColumn _ => (hColumns column hColumn).columnPhrase)
      hList
  exact .create hFirst (.present hSecond) hName hOpen hPhrase hClose .absent

theorem ofText_insertionText {row : Row} (hTable : IsName table.toList)
    (hTableFree : ¬SpellsKeyword table.toList) (hNonempty : row ≠ [])
    (hCells : ∀ cell ∈ row, cell.tokenKind.Spells cell.written.toList) :
    Statement.ofText (insertionText table row) = .ok (.insert table (row.map Cell.literal)) := by
  have hSeparate : Spelling.Separate
      (Spelling.wordsAndList (headSpellings .insert .into table) (row.map Cell.spellings)) := by
    refine Spelling.separate_wordsAndList (spelled_head .insert .into hTable hTableFree)
      (isChain_head .insert .into table) ?_ ?_
    · intro item hItem
      obtain ⟨cell, hCell, rfl⟩ := List.mem_map.mp hItem
      simp only [Cell.spellings, List.forall_mem_cons]
      exact ⟨⟨hCells cell hCell, by simp⟩, by simp⟩
    · intro item hItem
      obtain ⟨cell, -, rfl⟩ := List.mem_map.mp hItem
      exact .singleton _
  have hText : (insertionText table row).toList =
      (Spelling.wordsAndList (headSpellings .insert .into table)
        (row.map Cell.spellings)).flatMap Spelling.chars := by
    apply Spelling.flatMap_chars_wordsAndList
    · simp [headSpellings, Spelling.chars, Keyword.word]
    · rw [List.map_map, List.map_map]
      exact List.map_congr_left fun cell _ => by simp [Cell.spellings, Spelling.chars]
  refine Statement.ofText_of_separate .insert hSeparate hText fun tokens hReadings => ?_
  obtain ⟨first, second, name, openParen, closeParen, list, rfl, hFirst, hSecond, hName, rfl, hOpen,
    hList, hClose⟩ := exists_parts_of_readings hReadings
  have hPhrase : CommaSeparated CellPhrase list row := by
    refine commaSeparated_of_readings hNonempty (fun cell _ tokens hTokens => ?_) hList
    obtain ⟨token, _, rfl, hToken, hEnd⟩ := List.map_eq_cons_iff.mp hTokens
    obtain rfl := List.map_eq_nil_iff.mp hEnd
    refine .intro (Cell.ofToken?_of_reading (hToken.trans ?_))
    cases cell <;> simp [Spelling.reading, Cell.tokenKind, TokenKind.value]
  exact .insert hFirst hSecond hName .absent hOpen hPhrase.valuesPhrase hClose .absent

end Statements

end TableStore
