import TableStore.Proofs.Statement.Sentence
import TableStore.Proofs.Token.Layout

/-! # Selections

The texts that select all rows of a table, or its rows by a column, a comparison and a literal, are
read as these queries, whatever the names are, as long as the table has no reserved word for a name. The
condition is the three parts with spaces between them, where reserved words are in capitals.
-/

namespace TableStore

open Text

set_option autoImplicit false

def conditionText (column : String) (comparison : Comparison) (literal : String) : String :=
  " ".intercalate [column, comparison.text, literal]

def tableText (table : String) : String :=
  " ".intercalate ["SELECT", "*", "FROM", table]

def selectionText (table column : String) (comparison : Comparison) (literal : String) : String :=
  " ".intercalate ["SELECT", "*", "FROM", table, "WHERE", column, comparison.text, literal]

namespace Token

variable {token : Token}

theorem isKeyword_of_reading {keyword : Keyword} (h : token.reading = (.keyword, keyword.word)) :
    token.isKeyword keyword = true := by
  obtain ⟨hKind, hValue⟩ := Prod.mk.inj h
  simp [isKeyword, hKind, hValue]

theorem isSymbol_of_reading {symbol : Symbol} (h : token.reading = (.symbol, symbol.text)) :
    token.isSymbol symbol = true := by
  obtain ⟨hKind, hValue⟩ := Prod.mk.inj h
  simp [isSymbol, hKind, hValue]

theorem isIdentifier_of_reading {name : String} (h : token.reading = (.identifier, name)) :
    token.isIdentifier = true ∧ token.value = name := by
  obtain ⟨hKind, hValue⟩ := Prod.mk.inj h
  exact ⟨by simp [isIdentifier, hKind], hValue⟩

/-- Only ORDER BY and a semicolon end a condition. -/
theorem not_ends_of_reading {reading : TokenKind × String} (h : token.reading = reading)
    (hOrderBy : reading ≠ (.keyword, Keyword.orderBy.word))
    (hSemicolon : reading ≠ (.symbol, Symbol.semicolon.text)) :
    ¬token.isKeyword .orderBy ∧ ¬token.isSymbol .semicolon := by
  subst h
  simpa [Token.reading, isKeyword, isSymbol] using And.intro hOrderBy hSemicolon

end Token

namespace Statement

/-- A text that is written token by token is read as the sentence that its tokens are. -/
theorem ofText_of_separate (form : Form) {text : String} {spellings : List Spelling}
    {statement : Statement} (h : Spelling.Separate spellings)
    (hText : text.toList = spellings.flatMap Spelling.chars)
    (hSentence : ∀ tokens : List Token,
      tokens.map Token.reading = spellings.map Spelling.reading → Sentence form tokens statement) :
    ofText text = .ok statement :=
  ofText_eq_ok_iff.mpr ⟨form, hSentence _ (Spelling.tokens_of_separate h hText)⟩

/-- All columns of a table, and then whatever is read as a condition. -/
theorem sentence_of_readings {tokens : List Token} {table : String} {condition : Option String}
    {others : List (TokenKind × String)}
    (h : tokens.map Token.reading =
      (.keyword, "SELECT") :: (.symbol, "*") :: (.keyword, "FROM") :: (.identifier, table) :: others)
    (hCondition : ∀ parts : List Token, parts.map Token.reading = others →
      ConditionPhrase parts condition) :
    Sentence .select tokens (.select { table, projection := .all, condition, order := [] }) := by
  simp only [List.map_eq_cons_iff] at h
  obtain ⟨select, _, rfl, hSelect, star, _, rfl, hStar, fromWord, _, rfl, hFrom, name, parts, rfl,
    hName, hParts⟩ := h
  obtain ⟨hIdentifier, hValue⟩ := Token.isIdentifier_of_reading hName
  have hSentence := Sentence.select (Token.isKeyword_of_reading hSelect)
    (.all (Token.isSymbol_of_reading hStar)) (Token.isKeyword_of_reading hFrom) hIdentifier
    (hCondition parts hParts) .absent .absent
  rw [hValue] at hSentence
  simpa using hSentence

theorem conditionPhrase_of_readings {tokens : List Token} {parts : List (TokenKind × String)}
    (hNonempty : parts ≠ []) (hOrderBy : (.keyword, Keyword.orderBy.word) ∉ parts)
    (hSemicolon : (.symbol, Symbol.semicolon.text) ∉ parts)
    (h : tokens.map Token.reading = (.keyword, "WHERE") :: parts) :
    ConditionPhrase tokens (some (" ".intercalate (parts.map Prod.snd))) := by
  obtain ⟨word, rest, rfl, hWord, rfl⟩ := List.map_eq_cons_iff.mp h
  have hParts : ∀ part ∈ rest, ¬part.isKeyword .orderBy ∧ ¬part.isSymbol .semicolon := by
    intro part hPart
    have hMember : part.reading ∈ rest.map Token.reading := List.mem_map_of_mem hPart
    refine Token.not_ends_of_reading rfl ?_ ?_
    · exact fun hSame => hOrderBy (hSame ▸ hMember)
    · exact fun hSame => hSemicolon (hSame ▸ hMember)
  rw [List.map_map]
  exact .present (Token.isKeyword_of_reading hWord) (by simpa using hNonempty) hParts

end Statement

theorem Keyword.keywordValue_word (keyword : Keyword) : keywordValue keyword.word.toList = keyword.word := by
  cases keyword <;> decide

theorem Keyword.spellsKeyword_word (keyword : Keyword) : SpellsKeyword keyword.word.toList :=
  ⟨keyword, by cases keyword <;> decide⟩

theorem Keyword.spells_word (keyword : Keyword) : TokenKind.keyword.Spells keyword.word.toList :=
  .inl keyword.spellsKeyword_word

/-- A word is read as a keyword if it is reserved, and else as an identifier. -/
def wordKind (cs : List Char) : TokenKind :=
  if SpellsKeyword cs then .keyword else .identifier

theorem wordKind_ne_symbol (cs : List Char) : wordKind cs ≠ .symbol := by
  rw [wordKind]
  split <;> simp

theorem IsName.spells {cs : List Char} (h : IsName cs) : (wordKind cs).Spells cs := by
  rw [wordKind]
  split
  · next hReserved => exact .inl hReserved
  · next hFree => exact ⟨h, hFree⟩

/-- The value of the token that a word is read as. -/
def wordValue (word : String) : String :=
  if SpellsKeyword word.toList then upper word else word

theorem upper_eq_word_iff {word : String} {keyword : Keyword} (h : IsName word.toList) :
    upper word = keyword.word ↔ word.toList.map Char.toUpper = keyword.word.toList := by
  rw [← h.toList_upper, String.toList_inj]

theorem upper_ne_word {word : String} (h : IsName word.toList) (hFree : ¬SpellsKeyword word.toList)
    (keyword : Keyword) : upper word ≠ keyword.word :=
  fun hUpper => hFree ⟨keyword, (upper_eq_word_iff h).mp hUpper⟩

theorem value_wordKind (word : String) : (wordKind word.toList).value word.toList = wordValue word := by
  rw [wordKind, wordValue]
  split
  · next hReserved =>
    obtain ⟨keyword, hKeyword⟩ := hReserved
    rw [TokenKind.value, keywordValue_of_capitals hKeyword,
      (upper_eq_word_iff (SpellsKeyword.isName ⟨keyword, hKeyword⟩)).mpr hKeyword]
  · exact String.ofList_toList

theorem wordValue_of_not_spellsKeyword {word : String} (h : ¬SpellsKeyword word.toList) :
    wordValue word = word :=
  if_neg h

theorem isName_wordValue {word : String} (h : IsName word.toList) : IsName (wordValue word).toList := by
  rw [wordValue]
  split
  · exact h.upper
  · exact h

/-- A word that is not reserved is no keyword as it stands, either. -/
theorem wordValue_eq_word_iff {word : String} {keyword : Keyword} (h : IsName word.toList) :
    wordValue word = keyword.word ↔ upper word = keyword.word := by
  rw [wordValue]
  split
  · rfl
  · next hFree =>
    constructor
    · rintro rfl
      exact absurd (Keyword.spellsKeyword_word keyword) hFree
    · exact fun hUpper => absurd hUpper (upper_ne_word h hFree keyword)

/-- The parts of the text, each with a space after it but for the last. -/
def wordSpellings (table column : String) (comparison : Comparison) (kind : TokenKind)
    (literal : String) : List Spelling :=
  [⟨.keyword, Keyword.select.word.toList, [' ']⟩, ⟨.symbol, Symbol.star.text.toList, [' ']⟩,
    ⟨.keyword, Keyword.fromTable.word.toList, [' ']⟩, ⟨wordKind table.toList, table.toList, [' ']⟩,
    ⟨.keyword, Keyword.whereClause.word.toList, [' ']⟩,
    ⟨wordKind column.toList, column.toList, [' ']⟩,
    ⟨.comparison, comparison.text.toList, [' ']⟩, ⟨kind, literal.toList, []⟩]

def tableSpellings (table : String) : List Spelling :=
  [⟨.keyword, Keyword.select.word.toList, [' ']⟩, ⟨.symbol, Symbol.star.text.toList, [' ']⟩,
    ⟨.keyword, Keyword.fromTable.word.toList, [' ']⟩, ⟨.identifier, table.toList, []⟩]

section

variable {table column literal : String} {comparison : Comparison} {kind : TokenKind}

theorem toList_selectionText :
    (selectionText table column comparison literal).toList =
      (wordSpellings table column comparison kind literal).flatMap Spelling.chars := by
  simp [selectionText, wordSpellings, Spelling.chars, String.intercalate_cons_cons, Keyword.word,
    Symbol.text, Symbol.char]

theorem separate_wordSpellings (hTable : IsName table.toList) (hColumn : IsName column.toList)
    (hLiteral : kind.Spells literal.toList) :
    Spelling.Separate (wordSpellings table column comparison kind literal) := by
  have hGap := isBlank_of_mem_space
  apply Spelling.separate_of_isChain
  · simp only [wordSpellings, List.forall_mem_cons]
    exact ⟨⟨Keyword.select.spells_word, hGap⟩, ⟨⟨.star, rfl⟩, hGap⟩,
      ⟨Keyword.fromTable.spells_word, hGap⟩, ⟨hTable.spells, hGap⟩,
      ⟨Keyword.whereClause.spells_word, hGap⟩, ⟨hColumn.spells, hGap⟩,
      ⟨⟨comparison, rfl⟩, hGap⟩, ⟨hLiteral, by simp⟩, by simp⟩
  · cases comparison <;>
      simp [wordSpellings, Spelling.Parted, Keyword.word, Symbol.text, Symbol.char, Comparison.text]

end

theorem separate_tableSpellings {table : String} (hTable : IsName table.toList)
    (hTableFree : ¬SpellsKeyword table.toList) : Spelling.Separate (tableSpellings table) := by
  have hGap := isBlank_of_mem_space
  apply Spelling.separate_of_isChain
  · simp only [tableSpellings, List.forall_mem_cons]
    exact ⟨⟨Keyword.select.spells_word, hGap⟩, ⟨⟨.star, rfl⟩, hGap⟩,
      ⟨Keyword.fromTable.spells_word, hGap⟩, ⟨⟨hTable, hTableFree⟩, by simp⟩, by simp⟩
  · simp [tableSpellings, Spelling.Parted, Keyword.word, Symbol.text, Symbol.char]

namespace Statement

theorem ofText_tableText {table : String} (hTable : IsName table.toList)
    (hTableFree : ¬SpellsKeyword table.toList) :
    ofText (tableText table) =
      .ok (.select { table, projection := .all, condition := none, order := [] }) := by
  have hText : (tableText table).toList = (tableSpellings table).flatMap Spelling.chars := by
    simp [tableText, tableSpellings, Spelling.chars, String.intercalate_cons_cons, Keyword.word,
      Symbol.text, Symbol.char]
  have hSeparate := separate_tableSpellings hTable hTableFree
  refine ofText_of_separate .select hSeparate hText fun tokens hReadings => ?_
  have hTokens : tokens.map Token.reading =
      [(.keyword, "SELECT"), (.symbol, "*"), (.keyword, "FROM"), (.identifier, table)] := by
    rw [hReadings]
    simp only [tableSpellings, List.map_cons, List.map_nil, Spelling.reading, TokenKind.value,
      Keyword.keywordValue_word, String.ofList_toList]
    rfl
  refine sentence_of_readings hTokens fun parts hParts => ?_
  rw [List.map_eq_nil_iff.mp hParts]
  exact .absent

section

variable {table column literal : String} {kind : TokenKind}

theorem map_reading_tokens_selectionText (comparison : Comparison) (hTable : IsName table.toList)
    (hColumn : IsName column.toList) (hLiteral : kind.Spells literal.toList) :
    (tokens (selectionText table column comparison literal)).map Token.reading =
      [(.keyword, "SELECT"), (.symbol, "*"), (.keyword, "FROM"),
        (wordKind table.toList, wordValue table), (.keyword, "WHERE"),
        (wordKind column.toList, wordValue column), (.comparison, comparison.text),
        (kind, kind.value literal.toList)] := by
  have hSeparate : Spelling.Separate (wordSpellings table column comparison kind literal) :=
    separate_wordSpellings hTable hColumn hLiteral
  rw [Spelling.tokens_of_separate hSeparate toList_selectionText]
  simp only [wordSpellings, List.map_cons, List.map_nil, Spelling.reading, value_wordKind]
  simp only [TokenKind.value, Keyword.keywordValue_word, String.ofList_toList]
  rfl

theorem ofText_of_words (comparison : Comparison) (hTable : IsName table.toList)
    (hTableFree : ¬SpellsKeyword table.toList) (hColumn : IsName column.toList)
    (hOrderBy : upper column ≠ Keyword.orderBy.word) (hLiteral : kind.Spells literal.toList)
    (hKeyword : kind = .keyword → kind.value literal.toList ≠ Keyword.orderBy.word)
    (hSymbol : kind ≠ .symbol) :
    ofText (selectionText table column comparison literal) =
      .ok (.select {
        table, projection := .all,
        condition := some (conditionText (wordValue column) comparison (kind.value literal.toList)),
        order := [] }) := by
  have hReadings := map_reading_tokens_selectionText comparison hTable hColumn hLiteral
  have hTableKind : wordKind table.toList = .identifier := if_neg hTableFree
  have hColumnValue : wordValue column ≠ Keyword.orderBy.word :=
    mt (wordValue_eq_word_iff hColumn).mp hOrderBy
  rw [hTableKind, wordValue_of_not_spellsKeyword hTableFree] at hReadings
  refine ofText_eq_ok_iff.mpr ⟨.select, sentence_of_readings hReadings fun parts hParts => ?_⟩
  refine conditionPhrase_of_readings (List.cons_ne_nil _ _) ?_ ?_ hParts
  · simp only [List.mem_cons, List.not_mem_nil, or_false, Prod.mk.injEq, not_or, not_and]
    exact ⟨fun _ hSame => hColumnValue hSame.symm, nofun,
      fun hKind hSame => hKeyword hKind.symm hSame.symm⟩
  · simp [(wordKind_ne_symbol column.toList).symm, hSymbol.symm]

theorem ofText_selectionText (comparison : Comparison) (hTable : IsName table.toList)
    (hTableFree : ¬SpellsKeyword table.toList) (hColumn : IsName column.toList)
    (hColumnFree : ¬SpellsKeyword column.toList) (hKeyword : kind ≠ .keyword) (hSymbol : kind ≠ .symbol)
    (hLiteral : kind.Spells literal.toList) :
    ofText (selectionText table column comparison literal) =
      .ok (.select {
        table, projection := .all, condition := some (conditionText column comparison literal),
        order := [] }) := by
  have hOrderBy := upper_ne_word hColumn hColumnFree .orderBy
  have hStatement := ofText_of_words comparison hTable hTableFree hColumn hOrderBy hLiteral
    (absurd · hKeyword) hSymbol
  rwa [wordValue_of_not_spellsKeyword hColumnFree, TokenKind.value_of_ne_keyword hKeyword,
    String.ofList_toList] at hStatement

end

end Statement

end TableStore
