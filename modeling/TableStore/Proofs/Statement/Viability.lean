import TableStore.Proofs.Statement.Lookahead
import TableStore.Proofs.Statement.Sentence

/-! # Tokens that can be completed

Tokens are viable for a phrase if some further tokens complete them to it. Where a reader meets the
end too early, what it was given is viable for its phrase: the parts that are read stay, and the part
that is not can be completed.
-/

namespace TableStore

open Text TokenReader

set_option autoImplicit false

section Phrases

variable {α : Type}

def Phrase.Accepts (phrase : Phrase α) (tokens : List Token) : Prop :=
  ∃ value, phrase tokens value

/-- Some further tokens make these a phrase. -/
def Phrase.Viable (phrase : Phrase α) (tokens : List Token) : Prop :=
  ∃ more, phrase.Accepts (tokens ++ more)

theorem Phrase.Accepts.viable {phrase : Phrase α} {tokens : List Token} (h : phrase.Accepts tokens) :
    phrase.Viable tokens :=
  ⟨[], by rwa [List.append_nil]⟩

theorem Phrase.viable_of_isPrefix {phrase : Phrase α} {tokens whole : List Token} {value : α}
    (h : phrase whole value) (hPrefix : tokens <+: whole) : phrase.Viable tokens := by
  obtain ⟨more, rfl⟩ := hPrefix
  exact ⟨more, value, h⟩

theorem Phrase.Viable.of_isPrefix {phrase : Phrase α} {tokens whole : List Token}
    (h : phrase.Viable whole) (hPrefix : tokens <+: whole) : phrase.Viable tokens := by
  obtain ⟨more, value, hPhrase⟩ := h
  exact viable_of_isPrefix hPhrase (hPrefix.trans (List.prefix_append whole more))

end Phrases

theorem Token.exists_isKeyword (word : Keyword) : ∃ token : Token, token.isKeyword word :=
  ⟨⟨.keyword, word.word, .start⟩, by simp [isKeyword]⟩

theorem Token.exists_isSymbol (sign : Symbol) : ∃ token : Token, token.isSymbol sign :=
  ⟨⟨.symbol, sign.text, .start⟩, by simp [isSymbol]⟩

theorem Token.exists_isIdentifier : ∃ token : Token, token.isIdentifier :=
  ⟨⟨.identifier, "a", .start⟩, rfl⟩

namespace TokenReader

variable {α : Type}

/-- The end comes too early only for tokens that can be completed to the phrase. -/
def EndsWithin (reader : TokenReader α) (phrase : Phrase α) : Prop :=
  ∀ {tokens : List Token} {expectation : Expectation},
    reader tokens = .error (.unexpectedEnd expectation) → phrase.Viable tokens

/-- A reader of one token meets the end only if no token is left. -/
theorem eq_nil_of_expect {result : Token → α} {needed expectation : Expectation} {fits : Token → Bool}
    {tokens : List Token}
    (h : (expect needed fits >>= fun token => pure (result token)) tokens =
      .error (.unexpectedEnd expectation)) : tokens = [] := by
  cases tokens with
  | nil => rfl
  | cons token tokens =>
    rcases bind_eq_error h with hEnd | ⟨_, _, _, hPure⟩
    · rw [expect] at hEnd
      split at hEnd <;> cases hEnd
    · cases hPure

theorem eq_nil_of_keyword {word : Keyword} {needed expectation : Expectation} {tokens : List Token}
    (h : keyword word needed tokens = .error (.unexpectedEnd expectation)) : tokens = [] :=
  eq_nil_of_expect h

theorem eq_nil_of_symbol {sign : Symbol} {needed expectation : Expectation} {tokens : List Token}
    (h : symbol sign needed tokens = .error (.unexpectedEnd expectation)) : tokens = [] :=
  eq_nil_of_expect h

theorem eq_nil_of_identifier {needed expectation : Expectation} {tokens : List Token}
    (h : identifier needed tokens = .error (.unexpectedEnd expectation)) : tokens = [] :=
  eq_nil_of_expect h

theorem accept?_ne_error {fits : Token → Bool} {tokens : List Token} {error : SyntaxError} :
    accept? fits tokens ≠ .error error := by
  rcases stops_or_exists_cons fits tokens with hStops | ⟨token, rest, rfl, hFits⟩
  · simp [accept?_of_stops hStops]
  · simp [accept?_of_fits hFits]

theorem acceptance_ne_error {result : Option Token → α} {fits : Token → Bool} {tokens : List Token}
    {error : SyntaxError} :
    (accept? fits >>= fun token? => pure (result token?)) tokens ≠ .error error := by
  intro h
  rcases bind_eq_error h with hAccept | ⟨_, _, _, hPure⟩
  · exact accept?_ne_error hAccept
  · cases hPure

theorem acceptKeyword_ne_error {word : Keyword} {tokens : List Token} {error : SyntaxError} :
    acceptKeyword word tokens ≠ .error error :=
  acceptance_ne_error

theorem acceptSymbol_ne_error {sign : Symbol} {tokens : List Token} {error : SyntaxError} :
    acceptSymbol sign tokens ≠ .error error :=
  acceptance_ne_error

theorem identifier_endsWithin (needed : Expectation) : EndsWithin (identifier needed) NamePhrase := by
  intro tokens expectation h
  obtain ⟨name, hName⟩ := Token.exists_isIdentifier
  rw [eq_nil_of_identifier h]
  exact Phrase.viable_of_isPrefix (.intro hName) List.nil_prefix

end TokenReader

namespace ItemReader

variable {α : Type} {item : ItemReader α} {phrase : Phrase α} {continues : Token → Bool}

theorem further_endsWithin (hItem : Reads item.read phrase continues)
    (hEnds : EndsWithin item.read phrase) : EndsWithin item.further (FurtherItems phrase) := by
  intro tokens expectation h
  fun_induction further item tokens with
  | case1 => cases h
  | case5 => cases h
  | case2 comma tokens hComma error hRead =>
    cases h
    obtain ⟨more, value, hPhrase⟩ := hEnds hRead
    exact Phrase.viable_of_isPrefix (.cons hComma hPhrase .nil) (by simp)
  | case3 comma tokens hComma value rest hRead error hFurther ih =>
    cases h
    obtain ⟨taken, rfl, hTaken⟩ := hItem.sound hRead
    obtain ⟨more, values, hOthers⟩ := ih hFurther
    exact Phrase.viable_of_isPrefix (.cons hComma hTaken hOthers) (by simp)
  | case4 => cases h

theorem commaSeparated_viable {first : TokenReader α} (hFirst : Reads first phrase continues)
    (hItem : Reads item.read phrase continues) (hEnds : EndsWithin item.read phrase)
    {tokens rest : List Token} {value : α} {expectation : Expectation}
    (hValue : first tokens = .ok (value, rest))
    (hFurther : item.further rest = .error (.unexpectedEnd expectation)) :
    Phrase.Viable (CommaSeparated phrase) tokens := by
  obtain ⟨taken, rfl, hTaken⟩ := hFirst.sound hValue
  obtain ⟨more, values, hOthers⟩ := further_endsWithin hItem hEnds hFurther
  exact Phrase.viable_of_isPrefix (.intro hTaken hOthers) (by simp)

theorem list_endsWithin (hItem : Reads item.read phrase continues)
    (hEnds : EndsWithin item.read phrase) : EndsWithin item.list (CommaSeparated phrase) := by
  intro tokens expectation h
  rcases bind_eq_error h with hRead | ⟨value, rest, hValue, h⟩
  · obtain ⟨more, value, hPhrase⟩ := hEnds hRead
    exact Phrase.viable_of_isPrefix (.intro hPhrase .nil) (by simp)
  · rcases bind_eq_error h with hFurther | ⟨_, _, _, hPure⟩
    · exact commaSeparated_viable hItem hItem hEnds hValue hFurther
    · cases hPure

end ItemReader

theorem readColumn_endsWithin : EndsWithin readColumn ColumnPhrase := by
  intro tokens expectation h
  obtain ⟨anyName, hAnyName⟩ := Token.exists_isIdentifier
  rcases bind_eq_error h with hEnd | ⟨_, _, hReadName, hAfterName⟩
  · rw [eq_nil_of_identifier hEnd]
    exact Phrase.viable_of_isPrefix (.intro hAnyName hAnyName .absent) List.nil_prefix
  obtain ⟨name, rfl, hName, rfl⟩ := identifier_sound hReadName
  rcases bind_eq_error hAfterName with hEnd | ⟨_, _, -, hAfterType⟩
  · rw [eq_nil_of_identifier hEnd]
    exact Phrase.viable_of_isPrefix (.intro hName hAnyName .absent) (by simp)
  rcases bind_eq_error hAfterType with hEnd | ⟨_, _, _, hPure⟩
  · exact absurd hEnd acceptKeyword_ne_error
  · cases hPure

theorem readProjection_endsWithin : EndsWithin readProjection ProjectionPhrase := by
  intro tokens expectation h
  rcases bind_eq_error h with hEnd | ⟨given, _, hReadStar, hAfterStar⟩
  · exact absurd hEnd acceptSymbol_ne_error
  cases given with
  | true => cases hAfterStar
  | false =>
    obtain ⟨-, rfl⟩ | ⟨hGiven, -⟩ := acceptSymbol_sound hReadStar
    · rcases bind_eq_error hAfterStar with hEnd | ⟨_, _, hReadName, hAfterName⟩
      · obtain ⟨star, hStar⟩ := Token.exists_isSymbol .star
        rw [eq_nil_of_identifier hEnd]
        exact Phrase.viable_of_isPrefix (.all hStar) List.nil_prefix
      rcases bind_eq_error hAfterName with hEnd | ⟨_, _, _, hPure⟩
      · obtain ⟨more, names, hNames⟩ := ItemReader.commaSeparated_viable (identifier_reads _)
          (identifier_reads _) (identifier_endsWithin _) hReadName hEnd
        exact ⟨more, _, .columns hNames⟩
      · cases hPure
    · cases hGiven

theorem readDirection_ne_error {tokens : List Token} {error : SyntaxError} :
    readDirection tokens ≠ .error error := by
  intro h
  rcases bind_eq_error h with hDesc | ⟨given, rest, -, h⟩
  · exact acceptKeyword_ne_error hDesc
  · cases given with
    | true => cases h
    | false =>
      rcases bind_eq_error h with hAsc | ⟨_, _, _, hPure⟩
      · exact acceptKeyword_ne_error hAsc
      · cases hPure

theorem readOrderItem_endsWithin : EndsWithin readOrderItem OrderItemPhrase := by
  intro tokens expectation h
  rcases bind_eq_error h with hName | ⟨name, rest, _, h⟩
  · obtain ⟨anyName, hAnyName⟩ := Token.exists_isIdentifier
    rw [eq_nil_of_identifier hName]
    exact Phrase.viable_of_isPrefix (.intro hAnyName .absent) List.nil_prefix
  · rcases bind_eq_error h with hDirection | ⟨_, _, _, hPure⟩
    · exact absurd hDirection readDirection_ne_error
    · cases hPure

theorem readOrder_endsWithin : EndsWithin readOrder OrderPhrase := by
  intro tokens expectation h
  rcases bind_eq_error h with hWord | ⟨given, rest, hReadWord, h⟩
  · exact absurd hWord acceptKeyword_ne_error
  · obtain ⟨taken, rfl, hWord⟩ := (acceptKeyword_reads .orderBy).sound hReadWord
    cases hWord with
    | absent => cases h
    | present hWord =>
      obtain ⟨more, items, hItems⟩ :=
        ItemReader.list_endsWithin readOrderItem_reads readOrderItem_endsWithin h
      exact Phrase.viable_of_isPrefix (.present hWord hItems) (by simp)

theorem readCondition_ne_unexpectedEnd {tokens : List Token} {expectation : Expectation} :
    readCondition tokens ≠ .error (.unexpectedEnd expectation) := by
  intro h
  rcases bind_eq_error h with hWord | ⟨word?, rest, -, h⟩
  · exact accept?_ne_error hWord
  · cases word? with
    | none => cases h
    | some word =>
      rcases bind_eq_error h with hParts | ⟨parts, rest, -, h⟩
      · cases hParts
      · cases parts <;> cases h

theorem endOfStatement_ne_unexpectedEnd {tokens : List Token} {expectation : Expectation} :
    endOfStatement tokens ≠ .error (.unexpectedEnd expectation) := by
  intro h
  rcases bind_eq_error h with hSign | ⟨given, rest, -, h⟩
  · exact acceptSymbol_ne_error hSign
  · cases rest <;> cases h

namespace Statement

theorem readCreate_endsWithin : EndsWithin readCreate (Sentence .create) := by
  intro tokens expectation h
  obtain ⟨anyWord, hAnyWord⟩ := Token.exists_isKeyword .create
  obtain ⟨anyName, hAnyName⟩ := Token.exists_isIdentifier
  obtain ⟨anyOpen, hAnyOpen⟩ := Token.exists_isSymbol .openParen
  obtain ⟨anyClose, hAnyClose⟩ := Token.exists_isSymbol .closeParen
  have hAnyColumns := CommaSeparated.intro (ColumnPhrase.intro hAnyName hAnyName .absent) .nil
  rcases bind_eq_error h with hEnd | ⟨_, _, hReadWord, hAfterWord⟩
  · rw [eq_nil_of_keyword hEnd]
    exact Phrase.viable_of_isPrefix
      (.create hAnyWord .absent hAnyName hAnyOpen hAnyColumns hAnyClose .absent) List.nil_prefix
  obtain ⟨word, rfl, hWord⟩ := keyword_sound hReadWord
  rcases bind_eq_error hAfterWord with hEnd | ⟨_, _, hReadTable, hAfterTable⟩
  · exact absurd hEnd acceptKeyword_ne_error
  obtain ⟨table, rfl, hTable⟩ := (acceptKeyword_reads .table).sound hReadTable
  rcases bind_eq_error hAfterTable with hEnd | ⟨_, _, hReadName, hAfterName⟩
  · rw [eq_nil_of_identifier hEnd]
    exact Phrase.viable_of_isPrefix
      (.create hWord hTable hAnyName hAnyOpen hAnyColumns hAnyClose .absent) (by simp)
  obtain ⟨name, rfl, hName, rfl⟩ := identifier_sound hReadName
  rcases bind_eq_error hAfterName with hEnd | ⟨_, _, hReadOpen, hAfterOpen⟩
  · rw [eq_nil_of_symbol hEnd]
    exact Phrase.viable_of_isPrefix
      (.create hWord hTable hName hAnyOpen hAnyColumns hAnyClose .absent) (by simp)
  obtain ⟨openParen, rfl, hOpen⟩ := symbol_sound hReadOpen
  rcases bind_eq_error hAfterOpen with hEnd | ⟨_, _, hReadColumns, hAfterColumns⟩
  · obtain ⟨more, columns, hColumns⟩ :=
      ItemReader.list_endsWithin readColumn_reads readColumn_endsWithin hEnd
    exact Phrase.viable_of_isPrefix
      (.create hWord hTable hName hOpen hColumns hAnyClose .absent) (by simp)
  obtain ⟨columnTokens, rfl, hColumns⟩ := columns_reads.sound hReadColumns
  rcases bind_eq_error hAfterColumns with hEnd | ⟨_, _, -, hAfterClose⟩
  · rw [eq_nil_of_symbol hEnd]
    exact Phrase.viable_of_isPrefix
      (.create hWord hTable hName hOpen hColumns hAnyClose .absent) (by simp)
  rcases bind_eq_error hAfterClose with hEnd | ⟨_, _, _, hPure⟩
  · exact absurd hEnd endOfStatement_ne_unexpectedEnd
  · cases hPure

theorem viable_of_readInsertHead {tokens : List Token} {expectation : Expectation}
    (h : readInsertHead tokens = .error (.unexpectedEnd expectation)) :
    Phrase.Viable (Sentence .insert) tokens := by
  obtain ⟨anyWord, hAnyWord⟩ := Token.exists_isKeyword .insert
  obtain ⟨anyInto, hAnyInto⟩ := Token.exists_isKeyword .into
  obtain ⟨anyName, hAnyName⟩ := Token.exists_isIdentifier
  obtain ⟨anyOpen, hAnyOpen⟩ := Token.exists_isSymbol .openParen
  obtain ⟨anyClose, hAnyClose⟩ := Token.exists_isSymbol .closeParen
  rcases bind_eq_error h with hEnd | ⟨_, _, hReadWord, hAfterWord⟩
  · rw [eq_nil_of_keyword hEnd]
    exact Phrase.viable_of_isPrefix
      (.insert hAnyWord hAnyInto hAnyName .absent hAnyOpen .nil hAnyClose .absent) List.nil_prefix
  obtain ⟨word, rfl, hWord⟩ := keyword_sound hReadWord
  rcases bind_eq_error hAfterWord with hEnd | ⟨_, _, hReadInto, hAfterInto⟩
  · rw [eq_nil_of_keyword hEnd]
    exact Phrase.viable_of_isPrefix
      (.insert hWord hAnyInto hAnyName .absent hAnyOpen .nil hAnyClose .absent) (by simp)
  obtain ⟨into, rfl, hInto⟩ := keyword_sound hReadInto
  rcases bind_eq_error hAfterInto with hEnd | ⟨_, _, hReadName, hAfterName⟩
  · rw [eq_nil_of_identifier hEnd]
    exact Phrase.viable_of_isPrefix
      (.insert hWord hInto hAnyName .absent hAnyOpen .nil hAnyClose .absent) (by simp)
  obtain ⟨name, rfl, hName, rfl⟩ := identifier_sound hReadName
  rcases bind_eq_error hAfterName with hEnd | ⟨_, _, hReadGiven, hAfterGiven⟩
  · exact absurd hEnd acceptKeyword_ne_error
  obtain ⟨values, rfl, hGiven⟩ := (acceptKeyword_reads .values).sound hReadGiven
  rcases bind_eq_error hAfterGiven with hEnd | ⟨_, _, _, hPure⟩
  · rw [eq_nil_of_symbol hEnd]
    exact Phrase.viable_of_isPrefix
      (.insert hWord hInto hName hGiven hAnyOpen .nil hAnyClose .absent) (by simp)
  · cases hPure

/-- All tokens up to a closing parenthesis are taken, so only the parenthesis can be missing. -/
theorem valuesPhrase_of_readValueTokens {tokens : List Token} {expectation : Expectation}
    (h : readValueTokens tokens = .error (.unexpectedEnd expectation)) :
    ∃ values, ValuesPhrase tokens values := by
  rcases bind_eq_error h with hTake | ⟨_, _, hReadTokens, hAfterTokens⟩
  · cases hTake
  obtain ⟨rfl, hFits⟩ := takeWhile_sound hReadTokens
  rcases bind_eq_error hAfterTokens with hEnd | ⟨_, _, _, hPure⟩
  · rw [eq_nil_of_symbol hEnd, List.append_nil]
    exact ⟨_, valuesPhrase_iff.mpr ⟨fun token hToken => by simpa using hFits token hToken, rfl⟩⟩
  · cases hPure

theorem readInsert_endsWithin : EndsWithin readInsert (Sentence .insert) := by
  intro tokens expectation h
  rcases bind_eq_error h with hEnd | ⟨_, _, hReadHead, hAfterHead⟩
  · exact viable_of_readInsertHead hEnd
  obtain ⟨word, into, name, openParen, values, given, rfl, rfl, hWord, hInto, hName, hGiven, hOpen⟩ :=
    readInsertHead_eq_ok_iff.mp hReadHead
  rcases bind_eq_error hAfterHead with hEnd | ⟨_, _, -, hAfterValues⟩
  · obtain ⟨anyClose, hAnyClose⟩ := Token.exists_isSymbol .closeParen
    obtain ⟨items, hItems⟩ := valuesPhrase_of_readValueTokens hEnd
    exact Phrase.viable_of_isPrefix
      (.insert hWord hInto hName hGiven hOpen hItems hAnyClose .absent) (by simp)
  rcases bind_eq_error hAfterValues with hEnd | ⟨_, _, _, hPure⟩
  · exact absurd hEnd endOfStatement_ne_unexpectedEnd
  · cases hPure

theorem readSelect_endsWithin : EndsWithin readSelect (Sentence .select) := by
  intro tokens expectation h
  obtain ⟨anyWord, hAnyWord⟩ := Token.exists_isKeyword .select
  obtain ⟨anyStar, hAnyStar⟩ := Token.exists_isSymbol .star
  obtain ⟨anyFrom, hAnyFrom⟩ := Token.exists_isKeyword .fromTable
  obtain ⟨anyName, hAnyName⟩ := Token.exists_isIdentifier
  rcases bind_eq_error h with hEnd | ⟨_, _, hReadWord, hAfterWord⟩
  · rw [eq_nil_of_keyword hEnd]
    exact Phrase.viable_of_isPrefix
      (.select hAnyWord (.all hAnyStar) hAnyFrom hAnyName .absent .absent .absent) List.nil_prefix
  obtain ⟨word, rfl, hWord⟩ := keyword_sound hReadWord
  rcases bind_eq_error hAfterWord with hEnd | ⟨_, _, hReadProjection, hAfterProjection⟩
  · obtain ⟨more, projection, hProjection⟩ := readProjection_endsWithin hEnd
    exact Phrase.viable_of_isPrefix
      (.select hWord hProjection hAnyFrom hAnyName .absent .absent .absent) (by simp)
  obtain ⟨projectionTokens, rfl, hProjection⟩ := readProjection_reads.sound hReadProjection
  rcases bind_eq_error hAfterProjection with hEnd | ⟨_, _, hReadFrom, hAfterFrom⟩
  · rw [eq_nil_of_keyword hEnd]
    exact Phrase.viable_of_isPrefix
      (.select hWord hProjection hAnyFrom hAnyName .absent .absent .absent) (by simp)
  obtain ⟨fromWord, rfl, hFrom⟩ := keyword_sound hReadFrom
  rcases bind_eq_error hAfterFrom with hEnd | ⟨_, _, hReadName, hAfterName⟩
  · rw [eq_nil_of_identifier hEnd]
    exact Phrase.viable_of_isPrefix
      (.select hWord hProjection hFrom hAnyName .absent .absent .absent) (by simp)
  obtain ⟨name, rfl, hName, rfl⟩ := identifier_sound hReadName
  rcases bind_eq_error hAfterName with hEnd | ⟨_, _, hReadCondition, hAfterCondition⟩
  · exact absurd hEnd readCondition_ne_unexpectedEnd
  obtain ⟨conditionTokens, rfl, hCondition⟩ := readCondition_reads.sound hReadCondition
  rcases bind_eq_error hAfterCondition with hEnd | ⟨_, _, -, hAfterOrder⟩
  · obtain ⟨more, order, hOrder⟩ := readOrder_endsWithin hEnd
    exact Phrase.viable_of_isPrefix
      (.select hWord hProjection hFrom hName hCondition hOrder .absent) (by simp)
  rcases bind_eq_error hAfterOrder with hEnd | ⟨_, _, _, hPure⟩
  · exact absurd hEnd endOfStatement_ne_unexpectedEnd
  · cases hPure

theorem Form.reader_endsWithin (form : Form) : EndsWithin form.reader (Sentence form) := by
  cases form with
  | create => exact readCreate_endsWithin
  | insert => exact readInsert_endsWithin
  | select => exact readSelect_endsWithin

end Statement

end TableStore
