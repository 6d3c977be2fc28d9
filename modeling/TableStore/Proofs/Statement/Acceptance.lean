import TableStore.Proofs.Statement.Sentence
import TableStore.Proofs.Token.Written

/-! # Accepted statements

The readers accept exactly the grammar, and what they return is what the grammar says. The condition
of a query is there exactly if the word WHERE is, and then its text is not empty, because no token of
a text is.
-/

namespace TableStore

open Text

set_option autoImplicit false

theorem OptionalSemicolon.forall_token {tokens : List Token} {fits : Token → Prop}
    (h : OptionalSemicolon tokens) (hSemicolon : ∀ token : Token, token.isSymbol .semicolon → fits token) :
    ∀ token ∈ tokens, fits token := by
  cases h with
  | absent => simp
  | present hToken => simpa using hSemicolon _ hToken

section Lists

variable {α : Type} {item : Phrase α} {fits : Token → Prop}

theorem FurtherItems.forall_token {tokens : List Token} {values : List α}
    (h : FurtherItems item tokens values)
    (hItem : ∀ tokens value, item tokens value → ∀ token ∈ tokens, fits token)
    (hComma : ∀ token : Token, token.isSymbol .comma → fits token) : ∀ token ∈ tokens, fits token := by
  induction h with
  | nil => simp
  | cons hSign hValue _ ih =>
    intro token hToken
    rcases List.mem_cons.mp hToken with rfl | hToken
    · exact hComma _ hSign
    · rcases List.mem_append.mp hToken with hToken | hToken
      · exact hItem _ _ hValue token hToken
      · exact ih token hToken

theorem CommaSeparated.forall_token {tokens : List Token} {values : List α}
    (h : CommaSeparated item tokens values)
    (hItem : ∀ tokens value, item tokens value → ∀ token ∈ tokens, fits token)
    (hComma : ∀ token : Token, token.isSymbol .comma → fits token) : ∀ token ∈ tokens, fits token := by
  cases h with
  | intro hFirst hOthers =>
    intro token hToken
    rcases List.mem_append.mp hToken with hToken | hToken
    · exact hItem _ _ hFirst token hToken
    · exact hOthers.forall_token hItem hComma token hToken

end Lists

theorem ProjectionPhrase.forall_not_where {tokens : List Token} {projection : Projection}
    (h : ProjectionPhrase tokens projection) : ∀ token ∈ tokens, token.isKeyword .whereClause = false := by
  cases h with
  | all hStar =>
    simpa using Token.isKeyword_of_isSymbol hStar .whereClause
  | columns hNames =>
    refine hNames.forall_token ?_ fun token hComma => Token.isKeyword_of_isSymbol hComma _
    intro tokens name hName
    cases hName with
    | intro hIdentifier => simpa using Token.isKeyword_of_isIdentifier hIdentifier .whereClause

theorem DirectionPhrase.forall_not_where {tokens : List Token} {direction : Direction}
    (h : DirectionPhrase tokens direction) : ∀ token ∈ tokens, token.isKeyword .whereClause = false := by
  cases h with
  | absent => simp
  | ascending hWord => simpa using Token.isKeyword_of_isKeyword hWord .whereClause
  | descending hWord => simpa using Token.isKeyword_of_isKeyword hWord .whereClause

theorem OrderPhrase.forall_not_where {tokens : List Token} {order : List OrderItem}
    (h : OrderPhrase tokens order) : ∀ token ∈ tokens, token.isKeyword .whereClause = false := by
  cases h with
  | absent => simp
  | present hWord hItems =>
    intro token hToken
    rcases List.mem_cons.mp hToken with rfl | hToken
    · exact Token.isKeyword_of_isKeyword hWord .whereClause
    · refine hItems.forall_token ?_ (fun _ hComma => Token.isKeyword_of_isSymbol hComma _) token hToken
      intro tokens item hItem
      cases hItem with
      | intro hName hDirection =>
        intro token hToken
        rcases List.mem_cons.mp hToken with rfl | hToken
        · exact Token.isKeyword_of_isIdentifier hName .whereClause
        · exact hDirection.forall_not_where token hToken

namespace Statement

/-- A query has a condition exactly if WHERE is among its tokens. -/
theorem Sentence.condition_eq_none_iff {tokens : List Token} {query : Query}
    (h : Sentence .select tokens (.select query)) :
    query.condition = none ↔ ∀ token ∈ tokens, ¬token.isKeyword .whereClause := by
  cases h with
  | @select word fromWord name _ _ _ _ _ _ _ hWord hProjection hFrom hName hCondition hOrder hLast =>
    constructor
    · rintro rfl
      cases hCondition with
      | absent =>
        intro token hToken
        have hNot : token.isKeyword .whereClause = false := by
          simp only [List.mem_cons, List.mem_append, List.nil_append] at hToken
          rcases hToken with rfl | hToken | rfl | rfl | hToken | hToken
          · exact Token.isKeyword_of_isKeyword hWord .whereClause
          · exact hProjection.forall_not_where token hToken
          · exact Token.isKeyword_of_isKeyword hFrom .whereClause
          · exact Token.isKeyword_of_isIdentifier hName .whereClause
          · exact hOrder.forall_not_where token hToken
          · exact hLast.forall_token (fun _ hSign => Token.isKeyword_of_isSymbol hSign _) token hToken
        simp [hNot]
    · intro hNone
      cases hCondition with
      | absent => rfl
      | @present whereWord parts hWhere _ _ => exact absurd hWhere (hNone whereWord (by simp))

end Statement

end TableStore
