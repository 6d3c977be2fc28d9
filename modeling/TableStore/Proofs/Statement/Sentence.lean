import TableStore.Proofs.Statement.Parts

/-! # What is read as a statement

The reader of a form takes exactly the sentences of that form and gives what they stand for; of any
other tokens it makes nothing. A text is read as a statement if its tokens are a sentence.
-/

namespace TableStore

open Text TokenReader

set_option autoImplicit false

theorem readCreate_eq_ok_iff {tokens rest : List Token} {statement : Statement} :
    readCreate tokens = .ok (statement, rest) ↔
      rest = [] ∧ Statement.Sentence .create tokens statement := by
  constructor
  · intro h
    obtain ⟨_, _, hReadWord, hAfterWord⟩ := bind_eq_ok h
    obtain ⟨given, _, hReadTable, hAfterTable⟩ := bind_eq_ok hAfterWord
    obtain ⟨_, _, hReadName, hAfterName⟩ := bind_eq_ok hAfterTable
    obtain ⟨_, _, hReadOpen, hAfterOpen⟩ := bind_eq_ok hAfterName
    obtain ⟨columns, _, hReadColumns, hAfterColumns⟩ := bind_eq_ok hAfterOpen
    obtain ⟨_, _, hReadClose, hAfterClose⟩ := bind_eq_ok hAfterColumns
    obtain ⟨_, _, hReadEnd, hDone⟩ := bind_eq_ok hAfterClose
    cases hDone
    obtain ⟨word, rfl, hWord⟩ := keyword_sound hReadWord
    obtain ⟨table, rfl, hTable⟩ := (acceptKeyword_reads .table).sound hReadTable
    obtain ⟨name, rfl, hName, rfl⟩ := identifier_sound hReadName
    obtain ⟨openParen, rfl, hOpen⟩ := symbol_sound hReadOpen
    obtain ⟨columnTokens, rfl, hColumns⟩ := columns_reads.sound hReadColumns
    obtain ⟨closeParen, rfl, hClose⟩ := symbol_sound hReadClose
    obtain ⟨rfl, hLast⟩ := endOfStatement_eq_ok_iff.mp hReadEnd
    exact ⟨rfl, .create hWord hTable hName hOpen hColumns hClose hLast⟩
  · rintro ⟨rfl, h⟩
    cases h with
    | @create word name openParen closeParen table columnTokens last given columns hWord hTable hName
        hOpen hColumns hClose hLast =>
      have hReadTable := (acceptKeyword_reads .table).complete hTable
        (Stops.cons (Token.isKeyword_of_isIdentifier hName .table)
          (openParen :: (columnTokens ++ closeParen :: last)))
      have hCloseStops : (closeParen.isKeyword .indexed || closeParen.isSymbol .comma) = false := by
        simp [Token.isKeyword_of_isSymbol hClose, Token.isSymbol_of_isSymbol hClose]
      have hReadColumns := columns_reads.complete hColumns (Stops.cons hCloseStops last)
      have hReadEnd := endOfStatement_eq_ok_iff.mpr ⟨rfl, hLast⟩
      rw [readCreate, bind_of_eq_ok (keyword_cons hWord _ _), bind_of_eq_ok hReadTable,
        bind_of_eq_ok (identifier_cons hName _ _), bind_of_eq_ok (symbol_cons hOpen _ _),
        bind_of_eq_ok hReadColumns, bind_of_eq_ok (symbol_cons hClose _ _), bind_of_eq_ok hReadEnd]
      rfl

theorem readInsertHead_eq_ok_iff {tokens rest : List Token} {table : String} :
    readInsertHead tokens = .ok (table, rest) ↔
      ∃ (word into name openParen : Token) (values : List Token) (given : Bool),
        tokens = word :: into :: name :: (values ++ openParen :: rest) ∧ table = name.value ∧
        word.isKeyword .insert ∧ into.isKeyword .into ∧ name.isIdentifier ∧
        OptionalKeyword .values values given ∧ openParen.isSymbol .openParen := by
  constructor
  · intro h
    obtain ⟨_, _, hReadWord, hAfterWord⟩ := bind_eq_ok h
    obtain ⟨_, _, hReadInto, hAfterInto⟩ := bind_eq_ok hAfterWord
    obtain ⟨_, _, hReadName, hAfterName⟩ := bind_eq_ok hAfterInto
    obtain ⟨given, _, hReadGiven, hAfterGiven⟩ := bind_eq_ok hAfterName
    obtain ⟨_, _, hReadOpen, hDone⟩ := bind_eq_ok hAfterGiven
    cases hDone
    obtain ⟨word, rfl, hWord⟩ := keyword_sound hReadWord
    obtain ⟨into, rfl, hInto⟩ := keyword_sound hReadInto
    obtain ⟨name, rfl, hName, rfl⟩ := identifier_sound hReadName
    obtain ⟨values, rfl, hGiven⟩ := (acceptKeyword_reads .values).sound hReadGiven
    obtain ⟨openParen, rfl, hOpen⟩ := symbol_sound hReadOpen
    exact ⟨word, into, name, openParen, values, given, rfl, rfl, hWord, hInto, hName, hGiven, hOpen⟩
  · rintro ⟨word, into, name, openParen, values, given, rfl, rfl, hWord, hInto, hName, hGiven, hOpen⟩
    have hReadGiven := (acceptKeyword_reads .values).complete hGiven
      (Stops.cons (Token.isKeyword_of_isSymbol hOpen .values) rest)
    rw [readInsertHead, bind_of_eq_ok (keyword_cons hWord _ _), bind_of_eq_ok (keyword_cons hInto _ _),
      bind_of_eq_ok (identifier_cons hName _ _), bind_of_eq_ok hReadGiven,
      bind_of_eq_ok (symbol_cons hOpen _ _)]
    rfl

theorem readValueTokens_eq_ok_iff {tokens values rest : List Token} :
    readValueTokens tokens = .ok (values, rest) ↔
      ∃ closeParen : Token, tokens = values ++ closeParen :: rest ∧
        (∀ token ∈ values, ¬token.isSymbol .closeParen) ∧ closeParen.isSymbol .closeParen := by
  constructor
  · intro h
    obtain ⟨_, _, hReadTokens, hAfterTokens⟩ := bind_eq_ok h
    obtain ⟨_, _, hReadClose, hDone⟩ := bind_eq_ok hAfterTokens
    cases hDone
    obtain ⟨rfl, hValues⟩ := takeWhile_sound hReadTokens
    obtain ⟨closeParen, rfl, hClose⟩ := symbol_sound hReadClose
    exact ⟨closeParen, rfl, fun token hToken => by simpa using hValues token hToken, hClose⟩
  · rintro ⟨closeParen, rfl, hValues, hClose⟩
    have hFits : ∀ token ∈ values, (!token.isSymbol .closeParen) = true := by
      intro token hToken
      simpa using hValues token hToken
    have hStops : (!closeParen.isSymbol .closeParen) = false := by
      rw [hClose]
      rfl
    have hReadTokens := takeWhile_complete hFits (Stops.cons hStops rest)
    rw [readValueTokens, bind_of_eq_ok hReadTokens, bind_of_eq_ok (symbol_cons hClose _ _)]
    rfl

theorem readInsert_eq_ok_iff {tokens rest : List Token} {statement : Statement} :
    readInsert tokens = .ok (statement, rest) ↔
      rest = [] ∧ Statement.Sentence .insert tokens statement := by
  constructor
  · intro h
    obtain ⟨_, _, hReadHead, hAfterHead⟩ := bind_eq_ok h
    obtain ⟨values, _, hReadValues, hAfterValues⟩ := bind_eq_ok hAfterHead
    obtain ⟨_, _, hReadEnd, hDone⟩ := bind_eq_ok hAfterValues
    cases hDone
    obtain ⟨word, into, name, openParen, valuesWord, given, rfl, rfl, hWord, hInto, hName, hGiven,
      hOpen⟩ := readInsertHead_eq_ok_iff.mp hReadHead
    obtain ⟨closeParen, rfl, hValues, hClose⟩ := readValueTokens_eq_ok_iff.mp hReadValues
    obtain ⟨rfl, hLast⟩ := endOfStatement_eq_ok_iff.mp hReadEnd
    have hPhrase := valuesPhrase_iff.mpr ⟨hValues, rfl⟩
    exact ⟨rfl, .insert hWord hInto hName hGiven hOpen hPhrase hClose hLast⟩
  · rintro ⟨rfl, h⟩
    cases h with
    | @insert word into name openParen closeParen valuesWord valueTokens last given literals hWord hInto
        hName hGiven hOpen hPhrase hClose hLast =>
      obtain ⟨hValues, rfl⟩ := valuesPhrase_iff.mp hPhrase
      have hReadHead : readInsertHead
          (word :: into :: name :: (valuesWord ++ openParen :: (valueTokens ++ closeParen :: last))) =
            .ok (name.value, valueTokens ++ closeParen :: last) :=
        readInsertHead_eq_ok_iff.mpr
          ⟨_, _, _, _, _, _, rfl, rfl, hWord, hInto, hName, hGiven, hOpen⟩
      have hReadValues : readValueTokens (valueTokens ++ closeParen :: last) =
          .ok (valueTokens, last) := readValueTokens_eq_ok_iff.mpr ⟨_, rfl, hValues, hClose⟩
      have hReadEnd := endOfStatement_eq_ok_iff.mpr ⟨rfl, hLast⟩
      rw [readInsert, bind_of_eq_ok hReadHead, bind_of_eq_ok hReadValues, bind_of_eq_ok hReadEnd]
      rfl

theorem readSelect_eq_ok_iff {tokens rest : List Token} {statement : Statement} :
    readSelect tokens = .ok (statement, rest) ↔
      rest = [] ∧ Statement.Sentence .select tokens statement := by
  constructor
  · intro h
    obtain ⟨_, _, hReadWord, hAfterWord⟩ := bind_eq_ok h
    obtain ⟨projection, _, hReadProjection, hAfterProjection⟩ := bind_eq_ok hAfterWord
    obtain ⟨_, _, hReadFrom, hAfterFrom⟩ := bind_eq_ok hAfterProjection
    obtain ⟨_, _, hReadName, hAfterName⟩ := bind_eq_ok hAfterFrom
    obtain ⟨condition, _, hReadCondition, hAfterCondition⟩ := bind_eq_ok hAfterName
    obtain ⟨order, _, hReadOrder, hAfterOrder⟩ := bind_eq_ok hAfterCondition
    obtain ⟨_, _, hReadEnd, hDone⟩ := bind_eq_ok hAfterOrder
    cases hDone
    obtain ⟨word, rfl, hWord⟩ := keyword_sound hReadWord
    obtain ⟨projectionTokens, rfl, hProjection⟩ := readProjection_reads.sound hReadProjection
    obtain ⟨fromWord, rfl, hFrom⟩ := keyword_sound hReadFrom
    obtain ⟨name, rfl, hName, rfl⟩ := identifier_sound hReadName
    obtain ⟨conditionTokens, rfl, hCondition⟩ := readCondition_reads.sound hReadCondition
    obtain ⟨orderTokens, rfl, hOrder⟩ := readOrder_reads.sound hReadOrder
    obtain ⟨rfl, hLast⟩ := endOfStatement_eq_ok_iff.mp hReadEnd
    exact ⟨rfl, .select hWord hProjection hFrom hName hCondition hOrder hLast⟩
  · rintro ⟨rfl, h⟩
    cases h with
    | @select word fromWord name projectionTokens conditionTokens orderTokens last projection condition
        order hWord hProjection hFrom hName hCondition hOrder hLast =>
      have hReadProjection := readProjection_reads.complete hProjection
        (Stops.cons (Token.isSymbol_of_isKeyword hFrom .comma)
          (name :: (conditionTokens ++ (orderTokens ++ last))))
      have hReadCondition := readCondition_reads.complete hCondition (hOrder.stops_condition hLast)
      have hReadOrder := readOrder_reads.complete hOrder <| hLast.stops fun token hSign => by
        simp [Token.isKeyword_of_isSymbol hSign, Token.isSymbol_of_isSymbol hSign]
      have hReadEnd := endOfStatement_eq_ok_iff.mpr ⟨rfl, hLast⟩
      rw [readSelect, bind_of_eq_ok (keyword_cons hWord _ _), bind_of_eq_ok hReadProjection,
        bind_of_eq_ok (keyword_cons hFrom _ _), bind_of_eq_ok (identifier_cons hName _ _),
        bind_of_eq_ok hReadCondition, bind_of_eq_ok hReadOrder, bind_of_eq_ok hReadEnd]
      rfl

namespace Statement

theorem reader_eq_ok_iff {form : Form} {tokens rest : List Token} {statement : Statement} :
    form.reader tokens = .ok (statement, rest) ↔ rest = [] ∧ Sentence form tokens statement := by
  cases form with
  | create => exact readCreate_eq_ok_iff
  | insert => exact readInsert_eq_ok_iff
  | select => exact readSelect_eq_ok_iff

theorem ofTokens_eq_ok_iff {form : Form} {tokens : List Token} {statement : Statement} :
    ofTokens form tokens = .ok statement ↔ Sentence form tokens statement := by
  constructor
  · intro h
    cases hRead : form.reader tokens with
    | error error =>
      rw [ofTokens, hRead] at h
      cases h
    | ok result =>
      rw [ofTokens, hRead] at h
      cases h
      exact (reader_eq_ok_iff.mp hRead).2
  · intro h
    rw [ofTokens, reader_eq_ok_iff.mpr ⟨rfl, h⟩]
    rfl

/-- A sentence starts with the word that announces its form. -/
theorem Sentence.exists_cons {form : Form} {tokens : List Token} {statement : Statement}
    (h : Sentence form tokens statement) :
    ∃ first rest, tokens = first :: rest ∧ form? first = some form := by
  cases h with
  | create hWord => exact ⟨_, _, rfl, by simp [form?, hWord]⟩
  | insert hWord => exact ⟨_, _, rfl, by simp [form?, Token.isKeyword_of_isKeyword hWord]⟩
  | select hWord => exact ⟨_, _, rfl, by simp [form?, Token.isKeyword_of_isKeyword hWord]⟩

theorem ofAnyTokens_eq_ok_iff {tokens : List Token} {statement : Statement} :
    ofAnyTokens tokens = .ok statement ↔ ∃ form, Sentence form tokens statement := by
  constructor
  · intro h
    cases tokens with
    | nil => cases h
    | cons first rest =>
      rw [ofAnyTokens] at h
      split at h
      · cases h
      · next form _ => exact ⟨form, ofTokens_eq_ok_iff.mp h⟩
  · rintro ⟨form, h⟩
    obtain ⟨first, rest, rfl, hForm⟩ := h.exists_cons
    rw [ofAnyTokens, hForm]
    exact ofTokens_eq_ok_iff.mpr h

theorem ofText_eq_ok_iff {text : String} {statement : Statement} :
    ofText text = .ok statement ↔ ∃ form, Sentence form (tokens text) statement :=
  ofAnyTokens_eq_ok_iff

end Statement

end TableStore
