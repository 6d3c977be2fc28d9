import Mathlib.Data.List.TakeWhile
import TableStore.Proofs.Statement.Acceptance
import TableStore.Proofs.Token.Value

/-! # The tokens of a condition

The condition of a query stands between the word WHERE and the end of the condition. Its text is split
at blanks later on, and only a quoted text that holds blanks falls apart then; so where three pieces
come out, they are three tokens, or one of the first two pieces starts with a quote.
-/

namespace TableStore

open Text TokenReader

set_option autoImplicit false

/-- The tokens after the first WHERE, up to the end of the condition. -/
def conditionTokens? (tokens : List Token) : Option (List Token) :=
  match tokens.dropWhile fun token => !token.isKeyword .whereClause with
  | [] => none
  | _ :: rest => some (rest.takeWhile fun token => !endsCondition token)

theorem conditionTokens?_eq_none {tokens : List Token}
    (h : ∀ token ∈ tokens, ¬token.isKeyword .whereClause) : conditionTokens? tokens = none := by
  have hDrop : tokens.dropWhile (fun token => !token.isKeyword .whereClause) = [] :=
    List.dropWhile_eq_nil_iff.mpr fun token hToken => by simpa using h token hToken
  rw [conditionTokens?, hDrop]

theorem conditionTokens?_append {before parts rest : List Token} {word : Token}
    (hBefore : ∀ token ∈ before, token.isKeyword .whereClause = false)
    (hWord : word.isKeyword .whereClause) (hParts : ∀ part ∈ parts, endsCondition part = false)
    (hRest : Stops (fun token => !endsCondition token) rest) :
    conditionTokens? (before ++ word :: (parts ++ rest)) = some parts := by
  have hDrop : (before ++ word :: (parts ++ rest)).dropWhile
      (fun token => !token.isKeyword .whereClause) = word :: (parts ++ rest) := by
    rw [List.dropWhile_append_of_pos fun token hToken => by simp [hBefore token hToken],
      List.dropWhile_cons_of_neg (by simp [hWord])]
  have hTake : takeWhile (fun token => !endsCondition token) (parts ++ rest) =
      .ok (parts, rest) :=
    takeWhile_complete (fun part hPart => by simp [hParts part hPart]) hRest
  rw [conditionTokens?, hDrop]
  exact congrArg some (Prod.mk.inj (Except.ok.inj hTake)).1

theorem Statement.Sentence.condition_eq {form : Form} {tokens : List Token} {query : Query}
    (h : Sentence form tokens (.select query)) :
    query.condition =
      (conditionTokens? tokens).map fun parts => " ".intercalate (parts.map Token.value) := by
  obtain rfl : form = .select := by
    cases h
    rfl
  cases hCondition : query.condition with
  | none =>
    rw [conditionTokens?_eq_none (h.condition_eq_none_iff.mp hCondition)]
    rfl
  | some condition =>
    cases h with
    | @select word fromWord name projectionTokens _ orderTokens last _ _ _ hWord hProjection hFrom
        hName hPhrase hOrder hLast =>
      cases hPhrase with
      | absent => cases hCondition
      | @present whereWord parts hWhere hNonempty hParts =>
        cases hCondition
        have hBefore : ∀ token ∈ word :: (projectionTokens ++ [fromWord, name]),
            token.isKeyword .whereClause = false := by
          intro token hToken
          simp only [List.mem_cons, List.mem_append, List.not_mem_nil, or_false] at hToken
          rcases hToken with rfl | hToken | rfl | rfl
          · exact Token.isKeyword_of_isKeyword hWord .whereClause
          · exact hProjection.forall_not_where token hToken
          · exact Token.isKeyword_of_isKeyword hFrom .whereClause
          · exact Token.isKeyword_of_isIdentifier hName .whereClause
        have hTokens := conditionTokens?_append hBefore hWhere
          (fun part hPart => endsCondition_eq_false_iff.mpr (hParts part hPart))
          (hOrder.stops_condition hLast)
        have hSplit : word :: (projectionTokens ++ fromWord :: name ::
            (whereWord :: parts ++ (orderTokens ++ last))) =
            word :: (projectionTokens ++ [fromWord, name]) ++
              whereWord :: (parts ++ (orderTokens ++ last)) := by simp
        rw [hSplit, hTokens]
        rfl

theorem Statement.condition_of_ofText {text : String} {query : Query}
    (h : ofText text = .ok (.select query)) :
    query.condition =
      (conditionTokens? (tokens text)).map fun parts => " ".intercalate (parts.map Token.value) := by
  obtain ⟨form, hSentence⟩ := ofText_eq_ok_iff.mp h
  exact hSentence.condition_eq

theorem mem_tokens_of_conditionTokens? {tokens parts : List Token}
    (h : conditionTokens? tokens = some parts) : ∀ part ∈ parts, part ∈ tokens := by
  intro part hPart
  rw [conditionTokens?] at h
  split at h
  · cases h
  · next word rest hDrop =>
    cases h
    have hRest := (List.takeWhile_sublist _).subset hPart
    refine (List.dropWhile_sublist fun token => !token.isKeyword .whereClause).subset ?_
    rw [hDrop]
    exact List.mem_cons_of_mem word hRest

/-- What blanks split the values of tokens into. -/
def valuePieces (parts : List Token) : List String :=
  parts.flatMap fun part => pieces part.value

theorem pieces_intercalate_values (parts : List Token) :
    pieces (" ".intercalate (parts.map Token.value)) = valuePieces parts := by
  rw [pieces_intercalate, List.flatMap_map]
  rfl

section

variable {text : String} {parts : List Token} {first second third : String}

theorem eq_nil_of_valuePieces (hParts : ∀ part ∈ parts, part ∈ tokens text)
    (h : valuePieces parts = []) : parts = [] := by
  cases parts with
  | nil => rfl
  | cons part parts =>
    have hEmpty : pieces part.value = [] := (List.append_eq_nil_iff.mp h).1
    rcases Token.pieces_of_mem_tokens (hParts part List.mem_cons_self) with
      ⟨hPieces, -⟩ | ⟨first, second, others, hPieces, -⟩
    · rw [hPieces] at hEmpty
      cases hEmpty
    · rw [hPieces] at hEmpty
      cases hEmpty

/-- The first piece is the first token, or it is only the front of a quoted text. -/
theorem eq_cons_of_valuePieces (hParts : ∀ part ∈ parts, part ∈ tokens text) {others : List String}
    (h : valuePieces parts = first :: others) :
    (∃ part rest, parts = part :: rest ∧ part.value = first ∧
        (∀ c ∈ part.value.toList, isBlank c = false) ∧ valuePieces rest = others) ∨
      StartsWithQuote first ∧ others ≠ [] := by
  cases parts with
  | nil => cases h
  | cons part rest =>
    rw [valuePieces, List.flatMap_cons] at h
    rcases Token.pieces_of_mem_tokens (hParts part List.mem_cons_self) with
      ⟨hPieces, hWord⟩ | ⟨front, second, further, hPieces, hQuote⟩
    · rw [hPieces] at h
      obtain ⟨hFirst, hOthers⟩ := List.cons.inj h
      exact .inl ⟨part, rest, rfl, hFirst, hWord, hOthers⟩
    · rw [hPieces] at h
      obtain ⟨rfl, rfl⟩ := List.cons.inj h
      exact .inr ⟨hQuote, by simp⟩

theorem three_tokens_or_quote (hParts : ∀ part ∈ parts, part ∈ tokens text)
    (h : valuePieces parts = [first, second, third]) :
    (∃ left sign right, parts = [left, sign, right] ∧ left.value = first ∧ sign.value = second ∧
        right.value = third ∧ ∀ c ∈ third.toList, isBlank c = false) ∨
      StartsWithQuote first ∨ StartsWithQuote second := by
  rcases eq_cons_of_valuePieces hParts h with ⟨left, _, rfl, rfl, -, hAfterLeft⟩ | ⟨hQuote, -⟩
  · obtain ⟨-, hAfter⟩ := List.forall_mem_cons.mp hParts
    rcases eq_cons_of_valuePieces hAfter hAfterLeft with
      ⟨sign, _, rfl, rfl, -, hAfterSign⟩ | ⟨hQuote, -⟩
    · obtain ⟨-, hLast⟩ := List.forall_mem_cons.mp hAfter
      rcases eq_cons_of_valuePieces hLast hAfterSign with
        ⟨right, rest, rfl, rfl, hWord, hAfterRight⟩ | ⟨-, hMore⟩
      · obtain rfl := eq_nil_of_valuePieces (List.forall_mem_cons.mp hLast).2 hAfterRight
        exact .inl ⟨left, sign, right, rfl, rfl, rfl, rfl, hWord⟩
      · exact absurd rfl hMore
    · exact .inr (.inr hQuote)
  · exact .inr (.inl hQuote)

end

end TableStore
