import TableStore.Proofs.Statement.Precision
import TableStore.Proofs.Statement.Selection

/-! # Selections that are refused

A reserved word is no name of a table. As a column only ORDER_BY is not taken, since it leaves the
condition empty. Both are found before the literal is looked at.
-/

namespace TableStore

open Text TokenReader

set_option autoImplicit false

theorem isIdentifier_of_wordKind {token : Token} {word value : String}
    (h : token.reading = (wordKind word.toList, value)) :
    token.isIdentifier = true ↔ ¬SpellsKeyword word.toList := by
  obtain ⟨hKind, -⟩ := Prod.mk.inj h
  rw [Token.isIdentifier, hKind, wordKind]
  split <;> simp_all

namespace Statement

theorem ofAnyTokens_of_select {word : Token} (h : word.isKeyword .select) (rest : List Token) :
    ofAnyTokens (word :: rest) = ofTokens .select (word :: rest) := by
  have hForm : form? word = some .select := by
    simp [form?, Token.isKeyword_of_isKeyword h]
  rw [ofAnyTokens, hForm]

theorem ofTokens_of_unnamed {word star fromWord name : Token} (hWord : word.isKeyword .select)
    (hStar : star.isSymbol .star) (hFrom : fromWord.isKeyword .fromTable)
    (hName : name.isIdentifier = false) (rest : List Token) :
    ofTokens .select (word :: star :: fromWord :: name :: rest) =
      .error (.expected .queriedTable name.position) := by
  have hReadProjection : readProjection (star :: fromWord :: name :: rest) =
      .ok (.all, fromWord :: name :: rest) :=
    readProjection_reads.complete (.all hStar)
      (Stops.cons (Token.isSymbol_of_isKeyword hFrom .comma) (name :: rest))
  have hReadName : identifier .queriedTable (name :: rest) =
      .error (.expected .queriedTable name.position) := by
    refine bind_of_eq_error ?_ _
    rw [expect, if_neg (by simp [hName])]
  have hRead : readSelect (word :: star :: fromWord :: name :: rest) =
      .error (.expected .queriedTable name.position) := by
    rw [readSelect, bind_of_eq_ok (keyword_cons hWord _ _), bind_of_eq_ok hReadProjection,
      bind_of_eq_ok (keyword_cons hFrom _ _)]
    exact bind_of_eq_error hReadName _
  rw [ofTokens, Form.reader, hRead]
  rfl

variable {table column literal : String} {kind : TokenKind}

theorem ofText_of_reserved_table (comparison : Comparison) (hTable : IsName table.toList)
    (hReserved : SpellsKeyword table.toList) (hColumn : IsName column.toList)
    (hLiteral : kind.Spells literal.toList) :
    ∃ position, ofText (selectionText table column comparison literal) =
      .error (.expected .queriedTable position) := by
  have hReadings := map_reading_tokens_selectionText comparison hTable hColumn hLiteral
  rw [ofText]
  generalize tokens (selectionText table column comparison literal) = parts at hReadings
  simp only [List.map_eq_cons_iff] at hReadings
  obtain ⟨word, _, rfl, hWord, star, _, rfl, hStar, fromWord, _, rfl, hFrom, name, rest, rfl, hName,
    -⟩ := hReadings
  have hSelect : word.isKeyword .select := Token.isKeyword_of_reading hWord
  have hNotName : name.isIdentifier = false := by
    rw [Bool.eq_false_iff]
    exact fun hIdentifier => (isIdentifier_of_wordKind hName).mp hIdentifier hReserved
  rw [ofAnyTokens_of_select hSelect]
  exact ⟨_, ofTokens_of_unnamed hSelect (Token.isSymbol_of_reading hStar)
    (Token.isKeyword_of_reading hFrom) hNotName rest⟩

theorem ofText_of_orderBy_column (comparison : Comparison) (hTable : IsName table.toList)
    (hTableFree : ¬SpellsKeyword table.toList) (hColumn : IsName column.toList)
    (hOrderBy : upper column = Keyword.orderBy.word) (hLiteral : kind.Spells literal.toList) :
    ∃ position, ofText (selectionText table column comparison literal) =
      .error (.emptyCondition position) := by
  have hReadings := map_reading_tokens_selectionText comparison hTable hColumn hLiteral
  have hKind : wordKind column.toList = .keyword :=
    if_pos ⟨.orderBy, (upper_eq_word_iff hColumn).mp hOrderBy⟩
  rw [(wordValue_eq_word_iff hColumn).mpr hOrderBy, hKind] at hReadings
  rw [ofText]
  generalize tokens (selectionText table column comparison literal) = parts at hReadings
  simp only [List.map_eq_cons_iff] at hReadings
  obtain ⟨word, _, rfl, hWord, star, _, rfl, hStar, fromWord, _, rfl, hFrom, name, _, rfl, hName,
    whereWord, _, rfl, hWhere, left, rest, rfl, hLeft, -⟩ := hReadings
  have hSelect : word.isKeyword .select := Token.isKeyword_of_reading hWord
  have hLacks : LacksCondition .select
      ([word, star, fromWord, name, whereWord, left] ++ rest) whereWord :=
    .select hSelect (.all (Token.isSymbol_of_reading hStar)) (Token.isKeyword_of_reading hFrom)
      ((isIdentifier_of_wordKind hName).mpr hTableFree) (Token.isKeyword_of_reading hWhere)
      (by simpa using .inl (Token.isKeyword_of_reading hLeft))
  rw [ofAnyTokens_of_select hSelect, ofTokens]
  refine ⟨whereWord.position, ?_⟩
  exact congrArg (Except.map Prod.fst) hLacks.reader_eq

end Statement

end TableStore
