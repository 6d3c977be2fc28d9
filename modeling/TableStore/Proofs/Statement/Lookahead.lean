import TableStore.Proofs.Statement.Parts

/-! # Readers look one token ahead

What a reader takes depends on no more than the token after it, and a reader that fails at a token
has only read up to it: the tokens before it might go on to something that is read, and whatever
comes after it changes nothing. This is kept when readers are put together.
-/

namespace TableStore

open Text

set_option autoImplicit false

namespace TokenReader

variable {α β : Type}

/-- All tokens are taken, or more of them are needed. -/
def Undecided (reader : TokenReader α) (tokens : List Token) : Prop :=
  (∃ value, reader tokens = .ok (value, [])) ∨
    ∃ expectation, reader tokens = .error (.unexpectedEnd expectation)

/-- The first of these tokens, if there is one, is the first of those. -/
def HeadsAgree (tokens others : List Token) : Prop :=
  ∀ token ∈ tokens.head?, token ∈ others.head?

/-- What a reader may make of some tokens. The excepted errors are said nothing of. -/
inductive Verdict (excepted : SyntaxError → Prop) (reader : TokenReader α) (tokens : List Token) :
    Except SyntaxError (α × List Token) → Prop
  | read (taken : List Token) {rest : List Token} {value : α} :
      tokens = taken ++ rest →
      (∀ other, HeadsAgree other rest → reader (taken ++ other) = .ok (value, other)) →
      Verdict excepted reader tokens (.ok (value, rest))
  | ended {expectation : Expectation} :
      Verdict excepted reader tokens (.error (.unexpectedEnd expectation))
  | misplaced (before after : List Token) {token : Token} {error : SyntaxError} :
      tokens = before ++ token :: after → error.position? = some token.position →
      error ≠ .emptyCondition token.position → Undecided reader before →
      (∀ more, reader (before ++ token :: more) = .error error) →
      Verdict excepted reader tokens (.error error)
  | excepted {error : SyntaxError} :
      excepted error → Verdict excepted reader tokens (.error error)

structure Foresees (excepted : SyntaxError → Prop) (reader : TokenReader α) : Prop where
  undecided_nil : Undecided reader []
  verdict : ∀ tokens, Verdict excepted reader tokens (reader tokens)

theorem HeadsAgree.nil (others : List Token) : HeadsAgree [] others := by
  intro token hToken
  cases hToken

theorem HeadsAgree.cons (token : Token) (tokens others : List Token) :
    HeadsAgree (token :: tokens) (token :: others) :=
  fun _ hToken => hToken

theorem HeadsAgree.eq_nil {tokens : List Token} (h : HeadsAgree tokens []) : tokens = [] := by
  cases tokens with
  | nil => rfl
  | cons token tokens => cases h token rfl

theorem HeadsAgree.append {tokens others : List Token} (h : HeadsAgree tokens others)
    (taken : List Token) : HeadsAgree (taken ++ tokens) (taken ++ others) := by
  cases taken with
  | nil => exact h
  | cons first taken => exact fun token hToken => hToken

theorem HeadsAgree.stops {continues : Token → Bool} {tokens others : List Token}
    (h : HeadsAgree tokens others) (hStops : Stops continues others) : Stops continues tokens :=
  fun token hToken => hStops token (h token hToken)

theorem stops_or_exists_cons (continues : Token → Bool) (tokens : List Token) :
    Stops continues tokens ∨ ∃ token rest, tokens = token :: rest ∧ continues token := by
  cases tokens with
  | nil => exact .inl (Stops.nil continues)
  | cons token rest =>
    cases hToken : continues token with
    | false => exact .inl (Stops.cons hToken rest)
    | true => exact .inr ⟨token, rest, rfl, hToken⟩

theorem bind_of_eq_error {reader : TokenReader α} {tokens : List Token} {error : SyntaxError}
    (h : reader tokens = .error error) (next : α → TokenReader β) :
    (reader >>= next) tokens = .error error := by
  simp only [bind, StateT.bind, h, Except.bind]

/-- A failure of the whole is a failure of the first reader or of the one after it. -/
theorem bind_eq_error {reader : TokenReader α} {next : α → TokenReader β} {tokens : List Token}
    {error : SyntaxError} (h : (reader >>= next) tokens = .error error) :
    reader tokens = .error error ∨
      ∃ value rest, reader tokens = .ok (value, rest) ∧ next value rest = .error error := by
  cases hRead : reader tokens with
  | error other =>
    rw [bind_of_eq_error hRead] at h
    cases h
    exact .inl rfl
  | ok result => exact .inr ⟨result.1, result.2, rfl, by rwa [bind_of_eq_ok hRead] at h⟩

theorem Undecided.bind {reader : TokenReader α} {next : α → TokenReader β} {tokens : List Token}
    (h : Undecided reader tokens) (hNext : ∀ value, Undecided (next value) []) :
    Undecided (reader >>= next) tokens := by
  rcases h with ⟨value, hRead⟩ | ⟨expectation, hEnd⟩
  · rw [Undecided, bind_of_eq_ok hRead]
    exact hNext value
  · exact .inr ⟨expectation, bind_of_eq_error hEnd next⟩

variable {excepted : SyntaxError → Prop}

/-- What the first reader takes stands, since the tokens after it keep their first token. -/
theorem Verdict.bind {reader : TokenReader α} {next : α → TokenReader β} {tokens : List Token}
    (h : Verdict excepted reader tokens (reader tokens)) (hNil : ∀ value, Undecided (next value) [])
    (hNext : ∀ value rest, reader tokens = .ok (value, rest) →
      Verdict excepted (next value) rest (next value rest)) :
    Verdict excepted (reader >>= next) tokens ((reader >>= next) tokens) := by
  generalize hRead : reader tokens = result at h
  cases h with
  | ended =>
    rw [bind_of_eq_error hRead]
    exact .ended
  | excepted hError =>
    rw [bind_of_eq_error hRead]
    exact .excepted hError
  | misplaced before after hTokens hPosition hNotEmpty hBefore hMore =>
    rw [bind_of_eq_error hRead]
    exact .misplaced before after hTokens hPosition hNotEmpty (hBefore.bind hNil) fun more =>
      bind_of_eq_error (hMore more) next
  | @read taken rest value hTokens hTaken =>
    rw [bind_of_eq_ok hRead]
    have hRest := hNext value rest hRead
    generalize next value rest = result at hRest
    cases hRest with
    | ended => exact .ended
    | excepted hError => exact .excepted hError
    | @misplaced before after token error hSplit hPosition hNotEmpty hBefore hMore =>
      have hReadBefore : reader (taken ++ before) = .ok (value, before) := by
        apply hTaken
        rw [hSplit]
        simpa using (HeadsAgree.nil (token :: after)).append before
      have hReadMore : ∀ more, reader (taken ++ (before ++ token :: more)) =
          .ok (value, before ++ token :: more) := by
        intro more
        apply hTaken
        rw [hSplit]
        exact (HeadsAgree.cons token more after).append before
      refine .misplaced (taken ++ before) after ?_ hPosition hNotEmpty ?_ ?_
      · rw [hTokens, hSplit, List.append_assoc]
      · rw [Undecided, bind_of_eq_ok hReadBefore]
        exact hBefore
      · intro more
        rw [List.append_assoc, bind_of_eq_ok (hReadMore more)]
        exact hMore more
    | @read others last result hSplit hOthers =>
      refine .read (taken ++ others) ?_ ?_
      · rw [hTokens, hSplit, List.append_assoc]
      · intro other hAgree
        have hFirst : reader (taken ++ (others ++ other)) = .ok (value, others ++ other) := by
          apply hTaken
          rw [hSplit]
          exact hAgree.append others
        rw [List.append_assoc, bind_of_eq_ok hFirst]
        exact hOthers other hAgree

theorem Foresees.bind {reader : TokenReader α} {next : α → TokenReader β}
    (h : Foresees excepted reader) (hNext : ∀ value, Foresees excepted (next value)) :
    Foresees excepted (reader >>= next) where
  undecided_nil := h.undecided_nil.bind fun value => (hNext value).undecided_nil
  verdict tokens := (h.verdict tokens).bind (fun value => (hNext value).undecided_nil)
    fun value rest _ => (hNext value).verdict rest

/-- A token in front that the reader passes over leaves the verdict on the others as it is. -/
theorem Verdict.cons {reader inner : TokenReader α} {token : Token} {tokens : List Token}
    (h : Verdict excepted inner tokens (inner tokens))
    (hReader : ∀ others, reader (token :: others) = inner others) :
    Verdict excepted reader (token :: tokens) (reader (token :: tokens)) := by
  rw [hReader]
  generalize inner tokens = result at h
  cases h with
  | ended => exact .ended
  | excepted hError => exact .excepted hError
  | @read taken rest value hTokens hTaken =>
    refine .read (token :: taken) (by rw [hTokens, List.cons_append]) ?_
    intro other hAgree
    rw [List.cons_append, hReader]
    exact hTaken other hAgree
  | @misplaced before after other error hTokens hPosition hNotEmpty hBefore hMore =>
    refine .misplaced (token :: before) after (by rw [hTokens, List.cons_append]) hPosition
      hNotEmpty ?_ ?_
    · rw [Undecided, hReader]
      exact hBefore
    · intro more
      rw [List.cons_append, hReader]
      exact hMore more

theorem Foresees.ne_emptyCondition {reader : TokenReader α} (h : Foresees (fun _ => False) reader)
    {tokens : List Token} {position : Position} : reader tokens ≠ .error (.emptyCondition position) := by
  intro hError
  have hVerdict := h.verdict tokens
  rw [hError] at hVerdict
  cases hVerdict with
  | excepted hFalse => exact hFalse
  | misplaced _ _ _ hPosition hNotEmpty _ _ =>
    cases hPosition
    exact hNotEmpty rfl

theorem pure_foresees (value : α) : Foresees excepted (pure value : TokenReader α) where
  undecided_nil := .inl ⟨value, rfl⟩
  verdict _ := .read [] rfl fun _ _ => rfl

theorem expect_foresees (expectation : Expectation) (fits : Token → Bool) :
    Foresees excepted (expect expectation fits) where
  undecided_nil := .inr ⟨expectation, rfl⟩
  verdict tokens := by
    cases tokens with
    | nil => exact .ended
    | cons token tokens =>
      by_cases hFits : fits token
      · simp only [expect, hFits, if_true]
        refine .read [token] rfl fun other _ => ?_
        simp [expect, hFits]
      · simp only [expect, hFits]
        refine .misplaced [] tokens rfl rfl (by simp) (.inr ⟨expectation, rfl⟩) fun more => ?_
        simp [expect, hFits]

theorem keyword_foresees (word : Keyword) (expectation : Expectation) :
    Foresees excepted (keyword word expectation) :=
  (expect_foresees _ _).bind fun _ => pure_foresees _

theorem symbol_foresees (sign : Symbol) (expectation : Expectation) :
    Foresees excepted (symbol sign expectation) :=
  (expect_foresees _ _).bind fun _ => pure_foresees _

theorem identifier_foresees (expectation : Expectation) :
    Foresees excepted (identifier expectation) :=
  (expect_foresees _ _).bind fun _ => pure_foresees _

theorem accept?_foresees (fits : Token → Bool) : Foresees excepted (accept? fits) where
  undecided_nil := .inl ⟨none, rfl⟩
  verdict tokens := by
    rcases stops_or_exists_cons fits tokens with hStops | ⟨token, rest, rfl, hFits⟩
    · rw [accept?_of_stops hStops]
      exact .read [] rfl fun other hAgree => accept?_of_stops (hAgree.stops hStops)
    · rw [accept?_of_fits hFits]
      exact .read [token] rfl fun other _ => accept?_of_fits hFits other

theorem acceptKeyword_foresees (word : Keyword) : Foresees excepted (acceptKeyword word) :=
  (accept?_foresees _).bind fun _ => pure_foresees _

theorem acceptSymbol_foresees (sign : Symbol) : Foresees excepted (acceptSymbol sign) :=
  (accept?_foresees _).bind fun _ => pure_foresees _

theorem stops_dropWhile (fits : Token → Bool) (tokens : List Token) :
    Stops fits (tokens.dropWhile fits) := by
  intro token hToken
  have hNot := List.head?_dropWhile_not fits tokens
  rw [hToken] at hNot
  simpa using hNot

theorem takeWhile_foresees (fits : Token → Bool) : Foresees excepted (takeWhile fits) where
  undecided_nil := .inl ⟨[], rfl⟩
  verdict tokens := by
    have hFits : ∀ token ∈ tokens.takeWhile fits, fits token :=
      List.all_eq_true.mp List.all_takeWhile
    refine .read _ List.takeWhile_append_dropWhile.symm fun other hAgree => ?_
    exact takeWhile_complete hFits (hAgree.stops (stops_dropWhile fits tokens))

end TokenReader

open TokenReader

variable {excepted : SyntaxError → Prop}

namespace ItemReader

variable {α : Type} (item : ItemReader α)

theorem further_nil : item.further [] = .ok ([], []) := by
  rw [further]

theorem further_cons_of_comma {token : Token} (h : token.isSymbol .comma) (tokens : List Token) :
    item.further (token :: tokens) = item.list tokens := by
  rw [further, if_pos h]
  split
  · next hError => exact (bind_of_eq_error hError _).symm
  · next value rest hRead =>
    rw [list, bind_of_eq_ok hRead]
    split
    · next hError => exact (bind_of_eq_error hError _).symm
    · next values last hFurther =>
      rw [bind_of_eq_ok hFurther]
      rfl

theorem further_of_stops {tokens : List Token} (h : Stops (·.isSymbol .comma) tokens) :
    item.further tokens = .ok ([], tokens) := by
  cases tokens with
  | nil => exact item.further_nil
  | cons token tokens => rw [further, if_neg (by simp [h token rfl])]

/-- By induction on the number of tokens: each item takes at least one, and its comma another. -/
theorem further_foresees (hItem : Foresees excepted item.read) : Foresees excepted item.further where
  undecided_nil := .inl ⟨[], item.further_nil⟩
  verdict tokens := by
    induction hLength : tokens.length using Nat.strongRecOn generalizing tokens with
    | ind length ih =>
      rcases stops_or_exists_cons (·.isSymbol .comma) tokens with hStops | ⟨comma, tokens, rfl, hComma⟩
      · rw [item.further_of_stops hStops]
        exact .read [] rfl fun other hAgree => item.further_of_stops (hAgree.stops hStops)
      · have hNil : Undecided item.further [] := .inl ⟨[], item.further_nil⟩
        have hDone : ∀ value values,
            Foresees excepted (pure (value :: values) : TokenReader (List α)) :=
          fun value values => pure_foresees (value :: values)
        refine Verdict.cons ?_ (item.further_cons_of_comma hComma)
        refine (hItem.verdict tokens).bind
          (fun value => hNil.bind fun values => (hDone value values).undecided_nil)
          fun value rest hRead => ?_
        have hShorter : rest.length < length := by
          have hItemShorter := item.shortens _ _ _ hRead
          simp only [← hLength, List.length_cons]
          omega
        exact (ih rest.length hShorter rest rfl).bind (fun values => (hDone value values).undecided_nil)
          fun values last _ => (hDone value values).verdict last

theorem list_foresees (hItem : Foresees excepted item.read) : Foresees excepted item.list :=
  hItem.bind fun _ => (item.further_foresees hItem).bind fun _ => pure_foresees _

end ItemReader

theorem readColumn_foresees : Foresees excepted readColumn :=
  (identifier_foresees _).bind fun _ => (identifier_foresees _).bind fun _ =>
    (acceptKeyword_foresees _).bind fun _ => pure_foresees _

theorem readProjection_foresees : Foresees excepted readProjection :=
  (acceptSymbol_foresees _).bind fun
    | true => pure_foresees _
    | false => (identifier_foresees _).bind fun _ =>
      (nextColumnItem.further_foresees (identifier_foresees _)).bind fun _ => pure_foresees _

theorem readDirection_foresees : Foresees excepted readDirection :=
  (acceptKeyword_foresees _).bind fun
    | true => pure_foresees _
    | false => (acceptKeyword_foresees _).bind fun _ => pure_foresees _

theorem readOrderItem_foresees : Foresees excepted readOrderItem :=
  (identifier_foresees _).bind fun _ => readDirection_foresees.bind fun _ => pure_foresees _

theorem readOrder_foresees : Foresees excepted readOrder :=
  (acceptKeyword_foresees _).bind fun
    | true => orderItem.list_foresees readOrderItem_foresees
    | false => pure_foresees _

theorem readInsertHead_foresees : Foresees excepted readInsertHead :=
  (keyword_foresees _ _).bind fun _ => (keyword_foresees _ _).bind fun _ =>
    (identifier_foresees _).bind fun _ => (acceptKeyword_foresees _).bind fun _ =>
      (symbol_foresees _ _).bind fun _ => pure_foresees _

theorem readValueTokens_foresees : Foresees excepted readValueTokens :=
  (takeWhile_foresees _).bind fun _ => (symbol_foresees _ _).bind fun _ => pure_foresees _

theorem endOfStatement_foresees : Foresees excepted endOfStatement := by
  refine (acceptSymbol_foresees _).bind fun _ => ⟨.inl ⟨(), rfl⟩, fun tokens => ?_⟩
  cases tokens with
  | nil =>
    refine .read [] rfl fun other hAgree => ?_
    rw [hAgree.eq_nil]
    rfl
  | cons token tokens =>
    exact .misplaced [] tokens rfl rfl (by simp) (.inl ⟨(), rfl⟩) fun _ => rfl

/-- The error of a condition without tokens, which names the word before it. -/
def IsEmptyCondition (error : SyntaxError) : Prop :=
  ∃ position, error = .emptyCondition position

theorem readCondition_of_stops {word : Token} {rest : List Token} (hWord : word.isKeyword .whereClause)
    (hRest : Stops (fun token => !endsCondition token) rest) :
    readCondition (word :: rest) = .error (.emptyCondition word.position) := by
  have hParts := takeWhile_complete (List.forall_mem_nil _) hRest
  exact (bind_of_eq_ok (accept?_of_fits hWord rest) _).trans (bind_of_eq_ok hParts _)

theorem readCondition_foresees : Foresees IsEmptyCondition readCondition where
  undecided_nil := .inl ⟨none, rfl⟩
  verdict tokens := by
    rcases stops_or_exists_cons (·.isKeyword .whereClause) tokens with
      hStops | ⟨word, rest, rfl, hWord⟩
    · have hAbsent : ∀ other, Stops (·.isKeyword .whereClause) other →
          readCondition other = .ok (none, other) := fun other hOther =>
        bind_of_eq_ok (accept?_of_stops hOther) _
      rw [hAbsent tokens hStops]
      exact .read [] rfl fun other hAgree => hAbsent other (hAgree.stops hStops)
    · rcases stops_or_exists_cons (fun token => !endsCondition token) rest with
        hStops | ⟨part, others, rfl, hPart⟩
      · rw [readCondition_of_stops hWord hStops]
        exact .excepted ⟨word.position, rfl⟩
      · have hParts : ∀ token ∈ (part :: others).takeWhile (!endsCondition ·),
            ¬token.isKeyword .orderBy ∧ ¬token.isSymbol .semicolon := fun token hToken =>
          endsCondition_eq_false_iff.mp
            (by simpa using List.all_eq_true.mp List.all_takeWhile token hToken)
        have hNonempty : (part :: others).takeWhile (!endsCondition ·) ≠ [] := by
          simp [show endsCondition part = false by simpa using hPart]
        have hPhrase := ConditionPhrase.present hWord hNonempty hParts
        have hStops := stops_dropWhile (fun token => !endsCondition token) (part :: others)
        have hRead := readCondition_reads.complete hPhrase hStops
        rw [List.cons_append, List.takeWhile_append_dropWhile] at hRead
        rw [hRead]
        refine .read _ ?_ fun other hAgree =>
          readCondition_reads.complete hPhrase (hAgree.stops hStops)
        rw [List.cons_append, List.takeWhile_append_dropWhile]

theorem readCreate_foresees : Foresees excepted readCreate :=
  (keyword_foresees _ _).bind fun _ => (acceptKeyword_foresees _).bind fun _ =>
    (identifier_foresees _).bind fun _ => (symbol_foresees _ _).bind fun _ =>
      (columnItem.list_foresees readColumn_foresees).bind fun _ => (symbol_foresees _ _).bind fun _ =>
        endOfStatement_foresees.bind fun _ => pure_foresees _

theorem readInsert_foresees : Foresees excepted readInsert :=
  readInsertHead_foresees.bind fun _ => readValueTokens_foresees.bind fun _ =>
    endOfStatement_foresees.bind fun _ => pure_foresees _

theorem readSelect_foresees : Foresees IsEmptyCondition readSelect :=
  (keyword_foresees _ _).bind fun _ => readProjection_foresees.bind fun _ =>
    (keyword_foresees _ _).bind fun _ => (identifier_foresees _).bind fun _ =>
      readCondition_foresees.bind fun _ => readOrder_foresees.bind fun _ =>
        endOfStatement_foresees.bind fun _ => pure_foresees _

theorem Statement.Form.reader_foresees (form : Form) : Foresees IsEmptyCondition form.reader := by
  cases form with
  | create => exact readCreate_foresees
  | insert => exact readInsert_foresees
  | select => exact readSelect_foresees

end TableStore
