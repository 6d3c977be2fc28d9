import TableStore.Proofs.Statement.PhraseReader

/-! # The parts of a statement

Each part of a statement is read as its phrase. What makes it longer is named with it: a comma after
a list, a direction after an ordered column, any token but an end after a condition.
-/

namespace TableStore

open Text TokenReader

set_option autoImplicit false

theorem endOfStatement_eq_ok_iff {tokens rest : List Token} :
    endOfStatement tokens = .ok ((), rest) ↔ rest = [] ∧ OptionalSemicolon tokens := by
  constructor
  · intro h
    obtain ⟨given, middle, hSymbol, h⟩ := bind_eq_ok h
    cases middle with
    | nil =>
      cases h
      rcases acceptSymbol_sound hSymbol with ⟨-, rfl⟩ | ⟨-, token, rfl, hSign⟩
      · exact ⟨rfl, .absent⟩
      · exact ⟨rfl, .present hSign⟩
    | cons token middle => cases h
  · rintro ⟨rfl, hSemicolon⟩
    cases hSemicolon with
    | absent => rfl
    | present hSign => exact bind_of_eq_ok (acceptSymbol_of_isSymbol hSign []) _

theorem readColumn_reads : Reads readColumn ColumnPhrase (·.isKeyword .indexed) where
  sound h := by
    obtain ⟨name, middle, hReadName, h⟩ := bind_eq_ok h
    obtain ⟨declared, last, hReadType, h⟩ := bind_eq_ok h
    obtain ⟨indexed, final, hReadFlag, h⟩ := bind_eq_ok h
    cases h
    obtain ⟨nameToken, rfl, hName, rfl⟩ := identifier_sound hReadName
    obtain ⟨typeToken, rfl, hType, rfl⟩ := identifier_sound hReadType
    obtain ⟨flag, rfl, hFlag⟩ := (acceptKeyword_reads .indexed).sound hReadFlag
    exact ⟨nameToken :: typeToken :: flag, rfl, .intro hName hType hFlag⟩
  complete {taken column rest} hPhrase hStops := by
    cases hPhrase with
    | @intro name type flag indexed hName hType hFlag =>
      have hReadFlag := (acceptKeyword_reads .indexed).complete hFlag hStops
      rw [List.cons_append, List.cons_append, readColumn, bind_of_eq_ok (identifier_cons hName _ _),
        bind_of_eq_ok (identifier_cons hType _ _), bind_of_eq_ok hReadFlag]
      rfl

theorem readDirection_reads :
    Reads readDirection DirectionPhrase fun token => token.isKeyword .asc || token.isKeyword .desc where
  sound h := by
    obtain ⟨given, middle, hReadDesc, h⟩ := bind_eq_ok h
    obtain ⟨taken, rfl, hDesc⟩ := (acceptKeyword_reads .desc).sound hReadDesc
    cases hDesc with
    | present hWord =>
      cases h
      exact ⟨[_], rfl, .descending hWord⟩
    | absent =>
      obtain ⟨given, last, hReadAsc, h⟩ := bind_eq_ok h
      cases h
      obtain ⟨taken, rfl, hAsc⟩ := (acceptKeyword_reads .asc).sound hReadAsc
      cases hAsc with
      | absent => exact ⟨[], rfl, .absent⟩
      | present hWord => exact ⟨[_], rfl, .ascending hWord⟩
  complete {taken direction rest} hPhrase hStops := by
    have hNotDesc : Stops (·.isKeyword .desc) rest := hStops.mono fun token hToken => by simp [hToken]
    have hNotAsc : Stops (·.isKeyword .asc) rest := hStops.mono fun token hToken => by simp [hToken]
    cases hPhrase with
    | absent =>
      have hReadDesc := (acceptKeyword_reads .desc).complete .absent hNotDesc
      have hReadAsc := (acceptKeyword_reads .asc).complete .absent hNotAsc
      exact (bind_of_eq_ok hReadDesc _).trans (bind_of_eq_ok hReadAsc _)
    | @ascending token hWord =>
      have hOther : token.isKeyword .desc = false := Token.isKeyword_of_isKeyword hWord .desc
      have hReadDesc := (acceptKeyword_reads .desc).complete .absent (Stops.cons hOther rest)
      have hReadAsc := (acceptKeyword_reads .asc).complete (.present hWord) hNotAsc
      exact (bind_of_eq_ok hReadDesc _).trans (bind_of_eq_ok hReadAsc _)
    | descending hWord =>
      have hReadDesc := (acceptKeyword_reads .desc).complete (.present hWord) hNotDesc
      exact bind_of_eq_ok hReadDesc _

theorem readOrderItem_reads :
    Reads readOrderItem OrderItemPhrase fun token =>
      token.isKeyword .asc || token.isKeyword .desc where
  sound h := by
    obtain ⟨column, middle, hReadName, h⟩ := bind_eq_ok h
    obtain ⟨direction, last, hReadDirection, h⟩ := bind_eq_ok h
    cases h
    obtain ⟨name, rfl, hName, rfl⟩ := identifier_sound hReadName
    obtain ⟨taken, rfl, hDirection⟩ := readDirection_reads.sound hReadDirection
    exact ⟨name :: taken, rfl, .intro hName hDirection⟩
  complete {taken item rest} hPhrase hStops := by
    cases hPhrase with
    | intro hName hDirection =>
      rw [List.cons_append, readOrderItem, bind_of_eq_ok (identifier_cons hName _ _),
        bind_of_eq_ok (readDirection_reads.complete hDirection hStops)]
      rfl

theorem orderItems_reads :
    Reads orderItem.list (CommaSeparated OrderItemPhrase) fun token =>
      (token.isKeyword .asc || token.isKeyword .desc) || token.isSymbol .comma :=
  ItemReader.list_reads readOrderItem_reads fun token hComma => by
    simp [Token.isKeyword_of_isSymbol hComma]

theorem columns_reads :
    Reads columnItem.list (CommaSeparated ColumnPhrase) fun token =>
      token.isKeyword .indexed || token.isSymbol .comma :=
  ItemReader.list_reads readColumn_reads fun _ hComma => Token.isKeyword_of_isSymbol hComma _

theorem readOrder_reads :
    Reads readOrder OrderPhrase fun token =>
      token.isKeyword .orderBy || token.isKeyword .asc || token.isKeyword .desc
        || token.isSymbol .comma where
  sound h := by
    obtain ⟨given, middle, hReadWord, h⟩ := bind_eq_ok h
    obtain ⟨taken, rfl, hWord⟩ := (acceptKeyword_reads .orderBy).sound hReadWord
    cases hWord with
    | absent =>
      cases h
      exact ⟨[], rfl, .absent⟩
    | @present word hWord =>
      obtain ⟨items, rfl, hItems⟩ := orderItems_reads.sound h
      exact ⟨word :: items, rfl, .present hWord hItems⟩
  complete {taken order rest} hPhrase hStops := by
    have hNotWord : Stops (·.isKeyword .orderBy) rest :=
      hStops.mono fun token hToken => by simp [hToken]
    cases hPhrase with
    | absent => exact bind_of_eq_ok ((acceptKeyword_reads .orderBy).complete .absent hNotWord) _
    | @present word tokens items hWord hItems =>
      have hListStops : Stops
          (fun token => (token.isKeyword .asc || token.isKeyword .desc) || token.isSymbol .comma)
          rest := hStops.mono fun token hToken => by
        simp only [Bool.or_eq_true] at hToken ⊢
        rcases hToken with (hToken | hToken) | hToken <;> simp [hToken]
      exact (bind_of_eq_ok (acceptKeyword_of_isKeyword hWord _) _).trans
        (orderItems_reads.complete hItems hListStops)

theorem readProjection_reads : Reads readProjection ProjectionPhrase (·.isSymbol .comma) where
  sound h := by
    obtain ⟨given, middle, hReadStar, hColumns⟩ := bind_eq_ok h
    rcases acceptSymbol_sound hReadStar with ⟨rfl, rfl⟩ | ⟨rfl, token, rfl, hStar⟩
    · obtain ⟨name, middle, hReadName, hNames⟩ := bind_eq_ok hColumns
      obtain ⟨names, last, hReadNames, hDone⟩ := bind_eq_ok hNames
      cases hDone
      obtain ⟨taken, rfl, hNames⟩ := ItemReader.commaSeparated_sound nextColumnItem
        (identifier_reads _) (identifier_reads _) hReadName hReadNames
      exact ⟨taken, rfl, .columns hNames⟩
    · cases hColumns
      exact ⟨[token], rfl, .all hStar⟩
  complete {taken projection rest} hPhrase hStops := by
    cases hPhrase with
    | all hStar => exact bind_of_eq_ok (acceptSymbol_of_isSymbol hStar _) _
    | @columns tokens names hNames =>
      have hNotStar : Stops (·.isSymbol .star) (taken ++ rest) := by
        cases hNames with
        | intro hFirst _ =>
          cases hFirst with
          | intro hName => exact Stops.cons (Token.isSymbol_of_isIdentifier hName .star) _
      cases names with
      | nil => cases hNames
      | cons name names =>
        obtain ⟨middle, hReadName, hReadNames⟩ := ItemReader.commaSeparated_complete nextColumnItem
          (identifier_reads .selectedColumn) (identifier_reads _) (fun _ _ => rfl) hNames
          (by simpa using hStops)
        exact (bind_of_eq_ok (acceptSymbol_of_stops hNotStar) _).trans
          ((bind_of_eq_ok hReadName _).trans (bind_of_eq_ok hReadNames _))

theorem takeWhile_sound {fits : Token → Bool} {tokens taken rest : List Token}
    (h : takeWhile fits tokens = .ok (taken, rest)) :
    tokens = taken ++ rest ∧ ∀ token ∈ taken, fits token := by
  cases h
  exact ⟨List.takeWhile_append_dropWhile.symm, List.all_eq_true.mp List.all_takeWhile⟩

theorem takeWhile_complete {fits : Token → Bool} {taken rest : List Token}
    (h : ∀ token ∈ taken, fits token) (hStops : Stops fits rest) :
    takeWhile fits (taken ++ rest) = .ok (taken, rest) := by
  have hTake : (taken ++ rest).takeWhile fits = taken := by
    rw [List.takeWhile_append_of_pos h]
    cases rest with
    | nil => simp
    | cons token rest => simp [hStops token rfl]
  have hDrop : (taken ++ rest).dropWhile fits = rest := by
    rw [List.dropWhile_append_of_pos h]
    cases rest with
    | nil => simp
    | cons token rest => simp [hStops token rfl]
  rw [takeWhile, hTake, hDrop]

theorem endsCondition_eq_false_iff {token : Token} :
    endsCondition token = false ↔ ¬token.isKeyword .orderBy ∧ ¬token.isSymbol .semicolon := by
  simp [endsCondition]

theorem readCondition_reads : Reads readCondition ConditionPhrase fun token => !endsCondition token where
  sound h := by
    obtain ⟨word?, middle, hReadWord, hCondition⟩ := bind_eq_ok h
    obtain ⟨rfl, hWord⟩ := accept?_sound hReadWord
    cases word? with
    | none =>
      cases hCondition
      exact ⟨[], rfl, .absent⟩
    | some word =>
      obtain ⟨parts, last, hReadParts, hDone⟩ := bind_eq_ok hCondition
      obtain ⟨rfl, hParts⟩ := takeWhile_sound hReadParts
      cases parts with
      | nil => cases hDone
      | cons part parts =>
        cases hDone
        refine ⟨word :: part :: parts, rfl, .present (hWord word rfl) (by simp) ?_⟩
        intro other hOther
        exact endsCondition_eq_false_iff.mp (by simpa using hParts other hOther)
  complete {taken condition rest} hPhrase hStops := by
    cases hPhrase with
    | absent =>
      have hNotWord : Stops (·.isKeyword .whereClause) rest := hStops.mono fun token hToken => by
        simp [endsCondition, Token.isKeyword_of_isKeyword hToken, Token.isSymbol_of_isKeyword hToken]
      exact bind_of_eq_ok (accept?_of_stops hNotWord) _
    | @present word parts hWord hNonempty hParts =>
      have hFits : ∀ part ∈ parts, (!endsCondition part) = true := by
        intro part hPart
        rw [endsCondition_eq_false_iff.mpr (hParts part hPart)]
        rfl
      have hReadParts := takeWhile_complete hFits hStops
      refine (bind_of_eq_ok (accept?_of_fits hWord _) _).trans ((bind_of_eq_ok hReadParts _).trans ?_)
      cases parts with
      | nil => exact absurd rfl hNonempty
      | cons part parts => rfl

theorem valuesPhrase_iff {tokens : List Token} {literals : List Literal} :
    ValuesPhrase tokens literals ↔
      (∀ token ∈ tokens, ¬token.isSymbol .closeParen) ∧ literals = tokens.filterMap Literal.ofToken? := by
  constructor
  · intro h
    induction h with
    | nil => simp
    | string hKind _ ih => simp_all [Literal.ofToken?, Token.isSymbol]
    | number hKind _ ih => simp_all [Literal.ofToken?, Token.isSymbol]
    | @other token tokens literals hString hNumber hParen _ ih =>
      have hNone : Literal.ofToken? token = none := by
        unfold Literal.ofToken?
        split <;> simp_all
      simp_all
  · rintro ⟨hParens, rfl⟩
    induction tokens with
    | nil => exact .nil
    | cons token tokens ih =>
      have hTokens := ih fun other hOther => hParens other (List.mem_cons_of_mem _ hOther)
      cases hKind : token.kind with
      | string =>
        rw [List.filterMap_cons_some (by rw [Literal.ofToken?, hKind])]
        exact .string hKind hTokens
      | number =>
        rw [List.filterMap_cons_some (by rw [Literal.ofToken?, hKind])]
        exact .number hKind hTokens
      | keyword | identifier | comparison | symbol =>
        rw [List.filterMap_cons_none (by rw [Literal.ofToken?, hKind])]
        exact .other (by simp [hKind]) (by simp [hKind]) (hParens token List.mem_cons_self) hTokens

theorem OptionalSemicolon.stops {last : List Token} (h : OptionalSemicolon last)
    {continues : Token → Bool}
    (hContinues : ∀ token : Token, token.isSymbol .semicolon → continues token = false) :
    Stops continues last := by
  cases h with
  | absent => exact Stops.nil _
  | present hSign => exact Stops.cons (hContinues _ hSign) []

theorem OrderPhrase.stops_condition {tokens last : List Token} {order : List OrderItem}
    (h : OrderPhrase tokens order) (hLast : OptionalSemicolon last) :
    Stops (fun token => !endsCondition token) (tokens ++ last) := by
  cases h with
  | absent => exact hLast.stops fun token hSign => by simp [endsCondition, hSign]
  | present hWord _ => exact Stops.cons (by simp [endsCondition, hWord]) _

end TableStore
