import TableStore.Proofs.Statement.Grammar

/-! # Readers and phrases

A reader reads a phrase if what it takes off the front is always such a phrase, and if it takes a
phrase whole wherever no token follows that would make it longer. Lists with commas are read if
their items are.
-/

namespace TableStore

open Text

set_option autoImplicit false

namespace Token

variable {token : Token}

theorem isSymbol_of_isSymbol {symbol : Symbol} (h : token.isSymbol symbol) (other : Symbol) :
    token.isSymbol other = decide (symbol = other) := by
  simp only [isSymbol, Bool.and_eq_true, beq_iff_eq] at h
  rw [isSymbol, h.1, h.2]
  cases symbol <;> cases other <;> decide

theorem isKeyword_of_isKeyword {word : Keyword} (h : token.isKeyword word) (other : Keyword) :
    token.isKeyword other = decide (word = other) := by
  simp only [isKeyword, Bool.and_eq_true, beq_iff_eq] at h
  rw [isKeyword, h.1, h.2]
  cases word <;> cases other <;> decide

theorem isKeyword_of_isSymbol {symbol : Symbol} (h : token.isSymbol symbol) (word : Keyword) :
    token.isKeyword word = false := by
  simp only [isSymbol, Bool.and_eq_true, beq_iff_eq] at h
  simp [isKeyword, h.1]

theorem isSymbol_of_isKeyword {word : Keyword} (h : token.isKeyword word) (symbol : Symbol) :
    token.isSymbol symbol = false := by
  simp only [isKeyword, Bool.and_eq_true, beq_iff_eq] at h
  simp [isSymbol, h.1]

theorem isKeyword_of_isIdentifier (h : token.isIdentifier) (word : Keyword) :
    token.isKeyword word = false := by
  simp only [isIdentifier, beq_iff_eq] at h
  simp [isKeyword, h]

theorem isSymbol_of_isIdentifier (h : token.isIdentifier) (symbol : Symbol) :
    token.isSymbol symbol = false := by
  simp only [isIdentifier, beq_iff_eq] at h
  simp [isSymbol, h]

end Token

namespace TokenReader

variable {α β : Type}

theorem bind_of_eq_ok {reader : TokenReader α} {tokens rest : List Token} {value : α}
    (h : reader tokens = .ok (value, rest)) (next : α → TokenReader β) :
    (reader >>= next) tokens = next value rest := by
  simp only [bind, StateT.bind, h, Except.bind]

theorem expect_eq_ok_iff {expectation : Expectation} {fits : Token → Bool} {tokens rest : List Token}
    {token : Token} :
    expect expectation fits tokens = .ok (token, rest) ↔ tokens = token :: rest ∧ fits token := by
  cases tokens with
  | nil => simp [expect]
  | cons first tokens =>
    by_cases hFits : fits first
    · simp only [expect, hFits, if_true, Except.ok.injEq, Prod.mk.injEq, List.cons.injEq]
      constructor
      · rintro ⟨rfl, rfl⟩
        exact ⟨⟨rfl, rfl⟩, hFits⟩
      · exact And.left
    · simp only [expect, hFits, List.cons.injEq]
      constructor
      · simp
      · rintro ⟨⟨rfl, -⟩, h⟩
        exact absurd h hFits

theorem keyword_cons {word : Keyword} {token : Token} (h : token.isKeyword word)
    (expectation : Expectation) (rest : List Token) :
    keyword word expectation (token :: rest) = .ok ((), rest) :=
  bind_of_eq_ok (expect_eq_ok_iff.mpr ⟨rfl, h⟩) _

theorem keyword_sound {word : Keyword} {expectation : Expectation} {tokens rest : List Token}
    {value : Unit} (h : keyword word expectation tokens = .ok (value, rest)) :
    ∃ token, tokens = token :: rest ∧ token.isKeyword word := by
  obtain ⟨token, middle, hExpect, hRest⟩ := bind_eq_ok h
  cases hRest
  exact ⟨token, expect_eq_ok_iff.mp hExpect⟩

theorem symbol_cons {sign : Symbol} {token : Token} (h : token.isSymbol sign)
    (expectation : Expectation) (rest : List Token) :
    symbol sign expectation (token :: rest) = .ok ((), rest) :=
  bind_of_eq_ok (expect_eq_ok_iff.mpr ⟨rfl, h⟩) _

theorem symbol_sound {sign : Symbol} {expectation : Expectation} {tokens rest : List Token}
    {value : Unit} (h : symbol sign expectation tokens = .ok (value, rest)) :
    ∃ token, tokens = token :: rest ∧ token.isSymbol sign := by
  obtain ⟨token, middle, hExpect, hRest⟩ := bind_eq_ok h
  cases hRest
  exact ⟨token, expect_eq_ok_iff.mp hExpect⟩

theorem identifier_cons {token : Token} (h : token.isIdentifier) (expectation : Expectation)
    (rest : List Token) : identifier expectation (token :: rest) = .ok (token.value, rest) :=
  bind_of_eq_ok (expect_eq_ok_iff.mpr ⟨rfl, h⟩) _

theorem identifier_sound {expectation : Expectation} {tokens rest : List Token} {name : String}
    (h : identifier expectation tokens = .ok (name, rest)) :
    ∃ token, tokens = token :: rest ∧ token.isIdentifier ∧ name = token.value := by
  obtain ⟨token, middle, hExpect, hRest⟩ := bind_eq_ok h
  cases hRest
  obtain ⟨hTokens, hName⟩ := expect_eq_ok_iff.mp hExpect
  exact ⟨token, hTokens, hName, rfl⟩

/-- No token follows that would make a phrase longer. -/
def Stops (continues : Token → Bool) (rest : List Token) : Prop :=
  ∀ token ∈ rest.head?, continues token = false

structure Reads (reader : TokenReader α) (phrase : Phrase α) (continues : Token → Bool) : Prop where
  sound : ∀ {tokens : List Token} {value : α} {rest : List Token},
    reader tokens = .ok (value, rest) → ∃ taken, tokens = taken ++ rest ∧ phrase taken value
  complete : ∀ {taken : List Token} {value : α} {rest : List Token},
    phrase taken value → Stops continues rest → reader (taken ++ rest) = .ok (value, rest)

theorem Stops.nil (continues : Token → Bool) : Stops continues [] := by
  intro token hToken
  cases hToken

theorem Stops.cons {continues : Token → Bool} {token : Token} (h : continues token = false)
    (rest : List Token) : Stops continues (token :: rest) := by
  intro first hFirst
  cases hFirst
  exact h

theorem Stops.mono {continues fewer : Token → Bool} {rest : List Token} (h : Stops continues rest)
    (hFewer : ∀ token, fewer token = true → continues token = true) : Stops fewer rest := by
  intro token hToken
  cases hFewerToken : fewer token with
  | false => rfl
  | true => exact (hFewer token hFewerToken).symm.trans (h token hToken)

theorem accept?_sound {fits : Token → Bool} {tokens rest : List Token} {token? : Option Token}
    (h : accept? fits tokens = .ok (token?, rest)) :
    tokens = token?.toList ++ rest ∧ ∀ token ∈ token?, fits token := by
  cases tokens with
  | nil =>
    cases h
    simp
  | cons first tokens =>
    rw [accept?] at h
    split at h
    · next hFits =>
      cases h
      simpa using hFits
    · cases h
      simp

theorem accept?_of_fits {fits : Token → Bool} {token : Token} (h : fits token) (rest : List Token) :
    accept? fits (token :: rest) = .ok (some token, rest) := by
  rw [accept?, if_pos h]

theorem accept?_of_stops {fits : Token → Bool} {rest : List Token} (h : Stops fits rest) :
    accept? fits rest = .ok (none, rest) := by
  cases rest with
  | nil => rfl
  | cons first rest => rw [accept?, if_neg (by simp [h first rfl])]

theorem acceptKeyword_reads (word : Keyword) :
    Reads (acceptKeyword word) (OptionalKeyword word) (·.isKeyword word) where
  sound h := by
    obtain ⟨token?, middle, hAccept, hRest⟩ := bind_eq_ok h
    cases hRest
    obtain ⟨hTokens, hFits⟩ := accept?_sound hAccept
    cases token? with
    | none => exact ⟨[], hTokens, .absent⟩
    | some token => exact ⟨[token], hTokens, .present (hFits token rfl)⟩
  complete hPhrase hStops := by
    cases hPhrase with
    | absent => exact bind_of_eq_ok (accept?_of_stops hStops) _
    | present hWord => exact bind_of_eq_ok (accept?_of_fits hWord _) _

theorem acceptKeyword_of_isKeyword {word : Keyword} {token : Token} (h : token.isKeyword word)
    (rest : List Token) : acceptKeyword word (token :: rest) = .ok (true, rest) :=
  bind_of_eq_ok (accept?_of_fits h rest) _

theorem acceptSymbol_of_isSymbol {symbol : Symbol} {token : Token} (h : token.isSymbol symbol)
    (rest : List Token) : acceptSymbol symbol (token :: rest) = .ok (true, rest) :=
  bind_of_eq_ok (accept?_of_fits h rest) _

theorem acceptSymbol_of_stops {symbol : Symbol} {rest : List Token}
    (h : Stops (·.isSymbol symbol) rest) : acceptSymbol symbol rest = .ok (false, rest) :=
  bind_of_eq_ok (accept?_of_stops h) _

theorem acceptSymbol_sound {symbol : Symbol} {tokens rest : List Token} {given : Bool}
    (h : acceptSymbol symbol tokens = .ok (given, rest)) :
    (given = false ∧ tokens = rest) ∨
      (given = true ∧ ∃ token, tokens = token :: rest ∧ token.isSymbol symbol) := by
  obtain ⟨token?, middle, hAccept, hRest⟩ := bind_eq_ok h
  cases hRest
  obtain ⟨hTokens, hFits⟩ := accept?_sound hAccept
  cases token? with
  | none => exact .inl ⟨rfl, hTokens⟩
  | some token => exact .inr ⟨rfl, token, hTokens, hFits token rfl⟩

theorem identifier_reads (expectation : Expectation) :
    Reads (identifier expectation) NamePhrase fun _ => false where
  sound h := by
    obtain ⟨token, hTokens, hName, rfl⟩ := identifier_sound h
    exact ⟨[token], hTokens, .intro hName⟩
  complete hPhrase _ := by
    cases hPhrase with
    | intro hName => exact identifier_cons hName _ _

end TokenReader

open TokenReader

namespace ItemReader

variable {α : Type} {item : ItemReader α} {phrase : Phrase α} {continues : Token → Bool}

theorem further_sound (hItem : Reads item.read phrase continues) {tokens rest : List Token}
    {values : List α} (h : item.further tokens = .ok (values, rest)) :
    ∃ taken, tokens = taken ++ rest ∧ FurtherItems phrase taken values := by
  fun_induction further item tokens generalizing values rest with
  | case1 =>
    cases h
    exact ⟨[], rfl, .nil⟩
  | case2 => cases h
  | case3 => cases h
  | case4 token tokens hComma value middle hRead values tail hFurther ih =>
    cases h
    obtain ⟨first, rfl, hFirst⟩ := hItem.sound hRead
    obtain ⟨others, rfl, hOthers⟩ := ih hFurther
    exact ⟨token :: (first ++ others), by simp, .cons hComma hFirst hOthers⟩
  | case5 =>
    cases h
    exact ⟨[], rfl, .nil⟩

/-- An item that a comma does not make longer is followed by its comma or by what stops the list. -/
theorem further_complete (hItem : Reads item.read phrase continues)
    (hComma : ∀ token : Token, token.isSymbol .comma → continues token = false)
    {taken rest : List Token} {values : List α} (h : FurtherItems phrase taken values)
    (hStops : Stops (fun token => continues token || token.isSymbol .comma) rest) :
    item.further (taken ++ rest) = .ok (values, rest) := by
  have hItemStops : Stops continues rest := hStops.mono fun token hToken => by simp [hToken]
  have hListStops : Stops (·.isSymbol .comma) rest := hStops.mono fun token hToken => by simp [hToken]
  induction h with
  | nil =>
    cases rest with
    | nil => rw [List.nil_append, further]
    | cons token rest =>
      have hNot : ¬token.isSymbol .comma := by simp [hListStops token rfl]
      rw [List.nil_append, further, if_neg hNot]
  | @cons comma tokens others value values hSign hValue hOthers ih =>
    have hFollows : Stops continues (others ++ rest) := by
      cases hOthers with
      | nil => exact hItemStops
      | cons hNext _ _ => exact Stops.cons (hComma _ hNext) _
    have hRead := hItem.complete hValue hFollows
    rw [List.cons_append, List.append_assoc, further, if_pos hSign]
    split
    · next hError => rw [hRead] at hError; cases hError
    · next hOk =>
      rw [hRead] at hOk
      cases hOk
      rw [ih]

theorem commaSeparated_sound (item : ItemReader α) {first : TokenReader α}
    (hFirst : Reads first phrase continues) (hItem : Reads item.read phrase continues)
    {tokens middle rest : List Token} {value : α}
    {values : List α} (hValue : first tokens = .ok (value, middle))
    (hValues : item.further middle = .ok (values, rest)) :
    ∃ taken, tokens = taken ++ rest ∧ CommaSeparated phrase taken (value :: values) := by
  obtain ⟨taken, rfl, hTaken⟩ := hFirst.sound hValue
  obtain ⟨others, rfl, hOthers⟩ := further_sound hItem hValues
  exact ⟨taken ++ others, by simp, .intro hTaken hOthers⟩

theorem commaSeparated_complete (item : ItemReader α) {first : TokenReader α}
    (hFirst : Reads first phrase continues) (hItem : Reads item.read phrase continues)
    (hComma : ∀ token : Token, token.isSymbol .comma → continues token = false)
    {taken rest : List Token} {value : α} {values : List α}
    (h : CommaSeparated phrase taken (value :: values))
    (hStops : Stops (fun token => continues token || token.isSymbol .comma) rest) :
    ∃ middle, first (taken ++ rest) = .ok (value, middle) ∧
      item.further middle = .ok (values, rest) := by
  cases h with
  | @intro tokens others _ _ hValue hOthers =>
    have hFollows : Stops continues (others ++ rest) := by
      cases hOthers with
      | nil => exact hStops.mono fun token hToken => by simp [hToken]
      | cons hNext _ _ => exact Stops.cons (hComma _ hNext) _
    refine ⟨others ++ rest, ?_, further_complete hItem hComma hOthers hStops⟩
    rw [List.append_assoc]
    exact hFirst.complete hValue hFollows

theorem list_reads (hItem : Reads item.read phrase continues)
    (hComma : ∀ token : Token, token.isSymbol .comma → continues token = false) :
    Reads item.list (CommaSeparated phrase) fun token =>
      continues token || token.isSymbol .comma where
  sound h := by
    obtain ⟨value, middle, hValue, h⟩ := bind_eq_ok h
    obtain ⟨values, last, hValues, h⟩ := bind_eq_ok h
    cases h
    exact commaSeparated_sound item hItem hItem hValue hValues
  complete {taken values rest} hPhrase hStops := by
    cases values with
    | nil => cases hPhrase
    | cons value values =>
      obtain ⟨middle, hValue, hValues⟩ := commaSeparated_complete item hItem hItem hComma hPhrase
        hStops
      exact (bind_of_eq_ok hValue _).trans (bind_of_eq_ok hValues _)

end ItemReader

end TableStore
