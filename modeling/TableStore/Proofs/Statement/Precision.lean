import TableStore.Error
import TableStore.Proofs.Statement.Viability

/-! # Where a statement is refused

Tokens that are no sentence are refused at the end if they could go on to one, and else at the first
token with which they no longer can. Only a query without anything after the word WHERE is refused at
that word.
-/

namespace TableStore

open Text TokenReader

set_option autoImplicit false

/-- Up to this index the tokens can be completed, and with the token at it they cannot. -/
structure Phrase.FailsFirstAt {α : Type} (phrase : Phrase α) (tokens : List Token) (index : Nat) :
    Prop where
  not_viable : ¬phrase.Viable (tokens.take (index + 1))
  viable_before : ∀ earlier < index, phrase.Viable (tokens.take (earlier + 1))

theorem SyntaxError.kind_of_position? {error : SyntaxError} {position : Position}
    (h : error.position? = some position) : (Error.malformed error).kind = .syntactic := by
  cases error <;> first | rfl | cases h

namespace Statement

/-- A sentence of any of the forms. -/
def AnySentence : Phrase Statement := fun tokens statement =>
  ∃ form, Sentence form tokens statement

/-- A query that ends with the word WHERE, or goes on to its order or its semicolon after it. -/
inductive LacksCondition : Form → List Token → Token → Prop
  | select {word fromWord name whereWord : Token} {projectionTokens rest : List Token}
      {projection : Projection} :
      word.isKeyword .select → ProjectionPhrase projectionTokens projection →
      fromWord.isKeyword .fromTable → name.isIdentifier → whereWord.isKeyword .whereClause →
      (∀ token ∈ rest.head?, token.isKeyword .orderBy ∨ token.isSymbol .semicolon) →
      LacksCondition .select
        (word :: (projectionTokens ++ fromWord :: name :: whereWord :: rest)) whereWord

/-- What an error says of tokens that are no such phrase. -/
inductive Diagnosis (phrase : Phrase Statement) (lacking : Token → Prop) (tokens : List Token) :
    SyntaxError → Prop
  | withoutCondition {word : Token} {error : SyntaxError} :
      lacking word → (Error.malformed error).kind = .syntactic →
      error.position? = some word.position → Diagnosis phrase lacking tokens error
  | incomplete {error : SyntaxError} :
      (∀ word, ¬lacking word) → phrase.Viable tokens →
      (Error.malformed error).kind = .endOfStatement → Diagnosis phrase lacking tokens error
  | misplaced (index : Nat) {token : Token} {error : SyntaxError} :
      (∀ word, ¬lacking word) → ¬phrase.Viable tokens → phrase.FailsFirstAt tokens index →
      tokens[index]? = some token → (Error.malformed error).kind = .syntactic →
      error.position? = some token.position → Diagnosis phrase lacking tokens error

/-- Phrases are read, and other tokens are refused with their diagnosis. -/
def Judged (phrase : Phrase Statement) (lacking : Token → Prop) (tokens : List Token) :
    Except SyntaxError Statement → Prop
  | .ok statement => phrase tokens statement
  | .error error => ¬phrase.Accepts tokens ∧ Diagnosis phrase lacking tokens error

theorem stops_condition_iff {rest : List Token} :
    Stops (fun token => !endsCondition token) rest ↔
      ∀ token ∈ rest.head?, token.isKeyword .orderBy ∨ token.isSymbol .semicolon := by
  simp only [Stops, endsCondition, Bool.not_eq_false', Bool.or_eq_true]

theorem LacksCondition.reader_eq {form : Form} {tokens : List Token} {word : Token}
    (h : LacksCondition form tokens word) :
    form.reader tokens = .error (.emptyCondition word.position) := by
  cases h with
  | @select _ _ name _ _ rest _ hWord hProjection hFrom hName hWhere hRest =>
    have hReadProjection := readProjection_reads.complete hProjection
      (Stops.cons (Token.isSymbol_of_isKeyword hFrom .comma) (name :: word :: rest))
    rw [Form.reader, readSelect, bind_of_eq_ok (keyword_cons hWord _ _), bind_of_eq_ok hReadProjection,
      bind_of_eq_ok (keyword_cons hFrom _ _), bind_of_eq_ok (identifier_cons hName _ _)]
    exact bind_of_eq_error (readCondition_of_stops hWhere (stops_condition_iff.mpr hRest)) _

theorem exists_where_of_readCondition {tokens : List Token} {error : SyntaxError}
    (h : readCondition tokens = .error error) :
    ∃ word rest, tokens = word :: rest ∧ word.isKeyword .whereClause ∧
      Stops (fun token => !endsCondition token) rest := by
  rcases bind_eq_error h with hWord | ⟨word?, rest, hReadWord, hAfterWord⟩
  · exact absurd hWord accept?_ne_error
  obtain ⟨rfl, hWord⟩ := accept?_sound hReadWord
  cases word? with
  | none => cases hAfterWord
  | some word =>
    refine ⟨word, rest, rfl, hWord word rfl, ?_⟩
    rcases stops_or_exists_cons (fun token => !endsCondition token) rest with
      hStops | ⟨part, others, rfl, hPart⟩
    · exact hStops
    · rcases bind_eq_error hAfterWord with hParts | ⟨parts, last, hParts, hDone⟩
      · cases hParts
      · simp only [takeWhile, List.takeWhile_cons, hPart, if_true] at hParts
        cases hParts
        cases hDone

theorem lacksCondition_of_readSelect {tokens : List Token} {position : Position}
    (h : readSelect tokens = .error (.emptyCondition position)) :
    ∃ word, LacksCondition .select tokens word := by
  rcases bind_eq_error h with hError | ⟨_, _, hReadWord, hAfterWord⟩
  · exact absurd hError (keyword_foresees _ _).ne_emptyCondition
  rcases bind_eq_error hAfterWord with hError | ⟨_, _, hReadProjection, hAfterProjection⟩
  · exact absurd hError readProjection_foresees.ne_emptyCondition
  rcases bind_eq_error hAfterProjection with hError | ⟨_, _, hReadFrom, hAfterFrom⟩
  · exact absurd hError (keyword_foresees _ _).ne_emptyCondition
  rcases bind_eq_error hAfterFrom with hError | ⟨_, _, hReadName, hAfterName⟩
  · exact absurd hError (identifier_foresees _).ne_emptyCondition
  rcases bind_eq_error hAfterName with hError | ⟨_, _, -, hAfterCondition⟩
  · obtain ⟨word, rfl, hWord⟩ := keyword_sound hReadWord
    obtain ⟨projectionTokens, rfl, hProjection⟩ := readProjection_reads.sound hReadProjection
    obtain ⟨fromWord, rfl, hFrom⟩ := keyword_sound hReadFrom
    obtain ⟨name, rfl, hName, -⟩ := identifier_sound hReadName
    obtain ⟨whereWord, rest, rfl, hWhere, hRest⟩ := exists_where_of_readCondition hError
    exact ⟨whereWord, .select hWord hProjection hFrom hName hWhere (stops_condition_iff.mp hRest)⟩
  rcases bind_eq_error hAfterCondition with hError | ⟨_, _, _, hAfterOrder⟩
  · exact absurd hError readOrder_foresees.ne_emptyCondition
  rcases bind_eq_error hAfterOrder with hError | ⟨_, _, _, hPure⟩
  · exact absurd hError endOfStatement_foresees.ne_emptyCondition
  · cases hPure

theorem lacksCondition_of_reader {form : Form} {tokens : List Token} {position : Position}
    (h : form.reader tokens = .error (.emptyCondition position)) :
    ∃ word, LacksCondition form tokens word := by
  cases form with
  | create => exact absurd h readCreate_foresees.ne_emptyCondition
  | insert => exact absurd h readInsert_foresees.ne_emptyCondition
  | select => exact lacksCondition_of_readSelect h

theorem viable_of_undecided {form : Form} {tokens : List Token} (h : Undecided form.reader tokens) :
    Phrase.Viable (Sentence form) tokens := by
  rcases h with ⟨statement, hRead⟩ | ⟨expectation, hEnd⟩
  · exact Phrase.Accepts.viable ⟨statement, (reader_eq_ok_iff.mp hRead).2⟩
  · exact form.reader_endsWithin hEnd

theorem not_viable_of_forall_error {form : Form} {before : List Token} {token : Token}
    {error : SyntaxError} (h : ∀ more, form.reader (before ++ token :: more) = .error error) :
    ¬Phrase.Viable (Sentence form) (before ++ [token]) := by
  rintro ⟨more, statement, hSentence⟩
  have hRead := reader_eq_ok_iff.mpr ⟨rfl, hSentence⟩
  rw [List.append_assoc, List.singleton_append, h more] at hRead
  cases hRead

theorem failsFirstAt_length {form : Form} {before after : List Token} {token : Token}
    {error : SyntaxError} (hBefore : Undecided form.reader before)
    (hMore : ∀ more, form.reader (before ++ token :: more) = .error error) :
    Phrase.FailsFirstAt (Sentence form) (before ++ token :: after) before.length where
  not_viable := by
    have hTake : (before ++ token :: after).take (before.length + 1) = before ++ [token] := by
      rw [List.take_length_add_append]
      rfl
    rw [hTake]
    exact not_viable_of_forall_error hMore
  viable_before earlier hEarlier := by
    rw [List.take_append_of_le_length hEarlier]
    exact (viable_of_undecided hBefore).of_isPrefix (List.take_prefix _ _)

theorem ofTokens_eq_error {form : Form} {tokens : List Token} {error : SyntaxError}
    (h : ofTokens form tokens = .error error) : form.reader tokens = .error error := by
  cases hRead : form.reader tokens with
  | ok result =>
    rw [ofTokens, hRead] at h
    cases h
  | error other =>
    rw [ofTokens, hRead] at h
    cases h
    rfl

theorem judged_ofTokens (form : Form) (tokens : List Token) :
    Judged (Sentence form) (LacksCondition form tokens) tokens (ofTokens form tokens) := by
  cases hResult : ofTokens form tokens with
  | ok statement => exact ofTokens_eq_ok_iff.mp hResult
  | error error =>
    have hReader := ofTokens_eq_error hResult
    constructor
    · rintro ⟨statement, hSentence⟩
      rw [ofTokens_eq_ok_iff.mpr hSentence] at hResult
      cases hResult
    by_cases hLacks : ∃ word, LacksCondition form tokens word
    · obtain ⟨word, hWord⟩ := hLacks
      rw [hWord.reader_eq] at hReader
      cases hReader
      exact .withoutCondition hWord rfl rfl
    · have hNone : ∀ word, ¬LacksCondition form tokens word := fun word hWord => hLacks ⟨word, hWord⟩
      have hVerdict := form.reader_foresees.verdict tokens
      rw [hReader] at hVerdict
      cases hVerdict with
      | ended => exact .incomplete hNone (form.reader_endsWithin hReader) rfl
      | excepted hEmpty =>
        obtain ⟨position, rfl⟩ := hEmpty
        exact absurd (lacksCondition_of_reader hReader) hLacks
      | @misplaced before after token error hTokens hPosition _ hBefore hMore =>
        subst hTokens
        refine .misplaced before.length hNone ?_ (failsFirstAt_length hBefore hMore) (by simp)
          (SyntaxError.kind_of_position? hPosition) hPosition
        intro hViable
        exact not_viable_of_forall_error hMore (hViable.of_isPrefix (by simp))

section Dispatch

variable {form : Form} {first : Token}

theorem Sentence.form?_head {rest : List Token} {statement : Statement}
    (h : Sentence form (first :: rest) statement) : form? first = some form := by
  obtain ⟨other, others, hTokens, hForm⟩ := h.exists_cons
  cases hTokens
  exact hForm

theorem LacksCondition.form?_head {rest : List Token} {word : Token}
    (h : LacksCondition form (first :: rest) word) : form? first = some form := by
  cases h with
  | select hWord => simp [form?, Token.isKeyword_of_isKeyword hWord]

theorem LacksCondition.form_eq {tokens : List Token} {word : Token}
    (h : LacksCondition form tokens word) : form = .select := by
  cases h
  rfl

/-- After the word that announces a form, only sentences of that form are sentences. -/
theorem viable_cons_iff (hForm : form? first = some form) (rest : List Token) :
    Phrase.Viable AnySentence (first :: rest) ↔ Phrase.Viable (Sentence form) (first :: rest) := by
  constructor
  · rintro ⟨more, statement, other, hSentence⟩
    cases hForm.symm.trans hSentence.form?_head
    exact ⟨more, statement, hSentence⟩
  · rintro ⟨more, statement, hSentence⟩
    exact ⟨more, statement, form, hSentence⟩

theorem Judged.of_form {rest : List Token} {result : Except SyntaxError Statement}
    (hForm : form? first = some form)
    (h : Judged (Sentence form) (LacksCondition form (first :: rest)) (first :: rest) result) :
    Judged AnySentence (LacksCondition .select (first :: rest)) (first :: rest) result := by
  cases result with
  | ok statement => exact ⟨form, h⟩
  | error error =>
    obtain ⟨hNot, hDiagnosis⟩ := h
    constructor
    · rintro ⟨statement, other, hSentence⟩
      cases hForm.symm.trans hSentence.form?_head
      exact hNot ⟨statement, hSentence⟩
    have hLacking : ∀ word, LacksCondition .select (first :: rest) word →
        LacksCondition form (first :: rest) word := by
      intro word hWord
      cases hForm.symm.trans hWord.form?_head
      exact hWord
    cases hDiagnosis with
    | @withoutCondition word _ hWord hKind hPosition =>
      cases hWord.form_eq
      exact .withoutCondition hWord hKind hPosition
    | incomplete hNone hViable hKind =>
      exact .incomplete (fun word hWord => hNone word (hLacking word hWord))
        ((viable_cons_iff hForm rest).mpr hViable) hKind
    | misplaced index hNone hViable hFirst hToken hKind hPosition =>
      refine .misplaced index (fun word hWord => hNone word (hLacking word hWord))
        (fun hAny => hViable ((viable_cons_iff hForm rest).mp hAny)) ⟨?_, ?_⟩ hToken hKind hPosition
      · exact fun hAny => hFirst.not_viable ((viable_cons_iff hForm _).mp hAny)
      · exact fun earlier hEarlier =>
          (viable_cons_iff hForm _).mpr (hFirst.viable_before earlier hEarlier)

theorem judged_of_form?_eq_none (hForm : form? first = none) (rest : List Token) :
    Judged AnySentence (LacksCondition .select (first :: rest)) (first :: rest)
      (.error (.unknownCommand first.position)) := by
  have hNot : ∀ others, ¬Phrase.Viable AnySentence (first :: others) := by
    rintro others ⟨more, statement, form, hSentence⟩
    cases hForm.symm.trans hSentence.form?_head
  refine ⟨fun hAccepts => hNot rest hAccepts.viable, ?_⟩
  refine .misplaced 0 ?_ (hNot rest) ⟨hNot [], ?_⟩ rfl rfl rfl
  · intro word hWord
    cases hForm.symm.trans hWord.form?_head
  · intro earlier hEarlier
    cases hEarlier

end Dispatch

/-- What is no sentence is refused where it goes wrong: at the word WHERE if a query lacks only its
condition, at the end if further tokens could make a sentence, and else at the first token with which
none can. A text is judged by the sentences of all forms; without any token it is refused without a
position. -/
theorem refusals_are_precise :
    (∀ form tokens, Judged (Sentence form) (LacksCondition form tokens) tokens (ofTokens form tokens)) ∧
      ∀ text,
        if tokens text = [] then
          ∃ error, ofText text = .error error ∧ (Error.malformed error).kind = .syntactic ∧
            error.position? = none
        else Judged AnySentence (LacksCondition .select (tokens text)) (tokens text) (ofText text) := by
  refine ⟨judged_ofTokens, fun text => ?_⟩
  rw [ofText]
  cases tokens text with
  | nil => exact ⟨.noInput, rfl, rfl, rfl⟩
  | cons first rest =>
    rw [if_neg (List.cons_ne_nil first rest), ofAnyTokens]
    split
    · next hForm => exact judged_of_form?_eq_none hForm rest
    · next form hForm => exact (judged_ofTokens form (first :: rest)).of_form hForm

end Statement

end TableStore
