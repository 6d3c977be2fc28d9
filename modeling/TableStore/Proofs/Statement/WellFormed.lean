import TableStore.Proofs.Statement.Sentence
import TableStore.Proofs.Token.CharClass

/-! # Statements that are read from texts

The names in such a statement are names in ASCII, its types are written in capitals, and the text of
a literal never holds both quotes: a string does not hold its own, and a number holds none.
-/

namespace TableStore

open Text

set_option autoImplicit false

def LacksQuote (text : String) : Prop :=
  '\'' ∉ text.toList ∨ '"' ∉ text.toList

structure Column.WellFormed (column : Column) : Prop where
  name_isName : IsName column.name.toList
  typeName_isName : IsName column.type.name.toList
  typeName_upper : upper column.type.name = column.type.name
  int_iff : (∃ name, column.type = .int name) ↔
    column.type.name = "INT" ∨ column.type.name = "INTEGER"

def Statement.WellFormed : Statement → Prop
  | .create table columns =>
    IsName table.toList ∧ columns ≠ [] ∧ ∀ column ∈ columns, column.WellFormed
  | .insert _ literals => ∀ literal ∈ literals, LacksQuote literal.text
  | .select _ => True
  | .other _ => True

theorem unquoteChars_quoted {quote : Char} (h : isQuote quote) (content : List Char) :
    unquoteChars (quote :: (content ++ [quote])) = content := by
  simp [unquoteChars, h]

theorem unquoteChars_of_head {first : Char} (h : isQuote first = false) (rest : List Char) :
    unquoteChars (first :: rest) = first :: rest := by
  simp [unquoteChars, h]

theorem IsQuoted.lacksQuote_unquote {text : String} (h : IsQuoted text.toList) :
    LacksQuote (unquote text) := by
  obtain ⟨quote, content, hText, hQuote, hContent⟩ := h
  have hUnquoted : (unquote text).toList = content := by
    rw [unquote, String.toList_ofList, hText, unquoteChars_quoted hQuote]
  rw [LacksQuote, hUnquoted]
  simp only [isQuote, Bool.or_eq_true, beq_iff_eq] at hQuote
  rcases hQuote with rfl | rfl
  · exact .inl hContent
  · exact .inr hContent

theorem unquote_of_plain {text : String} (h : ∀ c ∈ text.toList, isQuote c = false) :
    unquote text = text := by
  apply String.toList_inj.mp
  rw [unquote, String.toList_ofList]
  cases hText : text.toList with
  | nil => rfl
  | cons first rest =>
    exact unquoteChars_of_head (h first (by rw [hText]; exact List.mem_cons_self)) rest

theorem IsName.isQuote_eq_false {cs : List Char} (h : IsName cs) : ∀ c ∈ cs, isQuote c = false :=
  fun c hc => forall_ascii (fun c => isNameRest c → isQuote c = false) (by decide) c
    (toNat_lt_of_isNameRest (h.all_isNameRest c hc)) (h.all_isNameRest c hc)

theorem IsNumber.isQuote_eq_false {cs : List Char} (h : IsNumber cs) : ∀ c ∈ cs, isQuote c = false :=
  h.forall_mem (by decide) fun _ hDigit => isQuote_of_isDigit hDigit

theorem IsNumber.unquote_eq {text : String} (h : IsNumber text.toList) : unquote text = text :=
  unquote_of_plain h.isQuote_eq_false

theorem IsNumber.lacksQuote_unquote {text : String} (h : IsNumber text.toList) :
    LacksQuote (unquote text) := by
  rw [h.unquote_eq]
  refine .inl fun hQuote => ?_
  exact absurd (h.isQuote_eq_false _ hQuote) (by decide)

theorem Token.Written.lacksQuote {token : Token} {literal : Literal} (h : token.Written)
    (hLiteral : Literal.ofToken? token = some literal) : LacksQuote literal.text := by
  rw [Token.Written] at h
  rw [Literal.ofToken?] at hLiteral
  cases hKind : token.kind with
  | string =>
    rw [hKind] at h hLiteral
    cases hLiteral
    exact h.lacksQuote_unquote
  | number =>
    rw [hKind] at h hLiteral
    cases hLiteral
    exact h.lacksQuote_unquote
  | keyword | identifier | comparison | symbol =>
    rw [hKind] at hLiteral
    cases hLiteral

theorem Token.Written.isName {token : Token} (h : token.Written) (hKind : token.isIdentifier) :
    IsName token.value.toList := by
  simp only [Token.isIdentifier, beq_iff_eq] at hKind
  rwa [Token.Written, hKind] at h

theorem ColumnType.name_ofName (declared : String) : (ofName declared).name = upper declared := by
  rw [ofName]
  split <;> rfl

theorem ColumnType.ofName_int_iff (declared : String) :
    (∃ name, ofName declared = .int name) ↔
      upper declared = "INT" ∨ upper declared = "INTEGER" := by
  rw [ofName]
  split
  · next hName => simpa using hName
  · next hName => simpa using hName

theorem Column.wellFormed_of_isName {name declared : String} {indexed : Bool}
    (hName : IsName name.toList) (hDeclared : IsName declared.toList) :
    Column.WellFormed { name, type := .ofName declared, indexed } where
  name_isName := hName
  typeName_isName := by
    rw [ColumnType.name_ofName]
    exact hDeclared.upper
  typeName_upper := by
    rw [ColumnType.name_ofName]
    exact hDeclared.upper_upper
  int_iff := by
    rw [ColumnType.name_ofName]
    exact ColumnType.ofName_int_iff declared

section Lists

variable {α : Type} {item : Phrase α} {fits : Token → Prop} {law : α → Prop}

theorem FurtherItems.forall_value {tokens : List Token} {values : List α}
    (h : FurtherItems item tokens values)
    (hItem : ∀ tokens value, item tokens value → (∀ token ∈ tokens, fits token) → law value)
    (hTokens : ∀ token ∈ tokens, fits token) : ∀ value ∈ values, law value := by
  induction h with
  | nil => simp
  | cons _ hValue _ ih =>
    intro value hMember
    rcases List.mem_cons.mp hMember with rfl | hMember
    · exact hItem _ _ hValue fun token hToken => hTokens token (by simp [hToken])
    · exact ih (fun token hToken => hTokens token (by simp [hToken])) value hMember

theorem CommaSeparated.forall_value {tokens : List Token} {values : List α}
    (h : CommaSeparated item tokens values)
    (hItem : ∀ tokens value, item tokens value → (∀ token ∈ tokens, fits token) → law value)
    (hTokens : ∀ token ∈ tokens, fits token) : values ≠ [] ∧ ∀ value ∈ values, law value := by
  cases h with
  | intro hFirst hOthers =>
    refine ⟨by simp, ?_⟩
    intro value hMember
    rcases List.mem_cons.mp hMember with rfl | hMember
    · exact hItem _ _ hFirst fun token hToken => hTokens token (by simp [hToken])
    · exact hOthers.forall_value hItem (fun token hToken => hTokens token (by simp [hToken])) value
        hMember

end Lists

theorem ColumnPhrase.wellFormed {tokens : List Token} {column : Column}
    (h : ColumnPhrase tokens column) (hTokens : ∀ token ∈ tokens, token.Written) :
    column.WellFormed := by
  cases h with
  | intro hName hType _ =>
    exact Column.wellFormed_of_isName ((hTokens _ (by simp)).isName hName)
      ((hTokens _ (by simp)).isName hType)

namespace Statement

theorem Sentence.wellFormed {form : Form} {tokens : List Token} {statement : Statement}
    (h : Sentence form tokens statement) (hTokens : ∀ token ∈ tokens, token.Written) :
    statement.WellFormed := by
  cases h with
  | create _ _ hName _ hColumns _ _ =>
    refine ⟨(hTokens _ (by simp)).isName hName, ?_⟩
    exact hColumns.forall_value (fun _ _ hColumn => hColumn.wellFormed)
      fun token hToken => hTokens token (by simp [hToken])
  | insert _ _ _ _ _ hValues _ _ =>
    obtain ⟨-, rfl⟩ := valuesPhrase_iff.mp hValues
    intro literal hLiteral
    obtain ⟨token, hToken, hOfToken⟩ := List.mem_filterMap.mp hLiteral
    exact (hTokens token (by simp [hToken])).lacksQuote hOfToken
  | select _ _ _ _ _ _ _ => trivial

theorem wellFormed_of_ofText {text : String} {statement : Statement}
    (h : ofText text = .ok statement) : statement.WellFormed := by
  obtain ⟨form, hSentence⟩ := ofText_eq_ok_iff.mp h
  exact hSentence.wellFormed fun token hToken => written_of_mem_tokens hToken

end Statement

end TableStore
