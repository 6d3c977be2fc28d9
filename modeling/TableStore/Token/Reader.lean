import TableStore.SyntaxError

/-! # Reading tokens

A reader takes tokens off the front of a list or says what it expected there. A reader of list items
takes at least one token each time, which is why a list of items separated by commas comes to an end.
-/

namespace TableStore

set_option autoImplicit false

abbrev TokenReader (α : Type) : Type :=
  StateT (List Token) (Except SyntaxError) α

namespace TokenReader

variable {α β : Type}

/-- Takes one token that fits, or fails with the expectation. -/
def expect (expectation : Expectation) (fits : Token → Bool) : TokenReader Token
  | [] => .error (.unexpectedEnd expectation)
  | token :: tokens =>
    if fits token then .ok (token, tokens) else .error (.expected expectation token.position)

def keyword (word : Keyword) (expectation : Expectation) : TokenReader Unit := do
  let _ ← expect expectation (·.isKeyword word)

def symbol (symbol : Symbol) (expectation : Expectation) : TokenReader Unit := do
  let _ ← expect expectation (·.isSymbol symbol)

def identifier (expectation : Expectation) : TokenReader String := do
  let token ← expect expectation (·.isIdentifier)
  return token.value

/-- Takes one token if it fits. -/
def accept? (fits : Token → Bool) : TokenReader (Option Token)
  | [] => .ok (none, [])
  | token :: tokens => if fits token then .ok (some token, tokens) else .ok (none, token :: tokens)

/-- Says whether the word was there to be taken. -/
def acceptKeyword (word : Keyword) : TokenReader Bool := do
  let token? ← accept? (·.isKeyword word)
  return token?.isSome

/-- Says whether the symbol was there to be taken. -/
def acceptSymbol (symbol : Symbol) : TokenReader Bool := do
  let token? ← accept? (·.isSymbol symbol)
  return token?.isSome

/-- Takes the tokens at the front that fit. -/
def takeWhile (fits : Token → Bool) : TokenReader (List Token) := fun tokens =>
  .ok (tokens.takeWhile fits, tokens.dropWhile fits)

def Shortens (reader : TokenReader α) : Prop :=
  ∀ tokens value rest, reader tokens = .ok (value, rest) → rest.length < tokens.length

def Keeps (reader : TokenReader α) : Prop :=
  ∀ tokens value rest, reader tokens = .ok (value, rest) → rest.length ≤ tokens.length

theorem bind_eq_ok {reader : TokenReader α} {next : α → TokenReader β} {tokens rest : List Token}
    {value : β} (h : (reader >>= next) tokens = .ok (value, rest)) :
    ∃ first middle, reader tokens = .ok (first, middle) ∧ next first middle = .ok (value, rest) := by
  simp only [bind, StateT.bind, Except.bind] at h
  split at h
  · cases h
  · next result found => exact ⟨result.1, result.2, found, h⟩

theorem expect_shortens (expectation : Expectation) (fits : Token → Bool) :
    Shortens (expect expectation fits) := by
  intro tokens value rest h
  cases tokens with
  | nil => cases h
  | cons token tokens =>
    simp only [expect] at h
    split at h
    · cases h
      simp
    · cases h

theorem accept?_keeps (fits : Token → Bool) : Keeps (accept? fits) := by
  intro tokens value rest h
  cases tokens with
  | nil => cases h; simp
  | cons token tokens =>
    simp only [accept?] at h
    split at h <;> cases h <;> simp

theorem pure_keeps (value : α) : Keeps (pure value : TokenReader α) := by
  intro tokens value rest h
  cases h
  exact Nat.le_refl _

theorem Shortens.bind {reader : TokenReader α} {next : α → TokenReader β} (first : Shortens reader)
    (second : ∀ value, Keeps (next value)) : Shortens (reader >>= next) := by
  intro tokens value rest h
  obtain ⟨middle, between, read, done⟩ := bind_eq_ok h
  exact Nat.lt_of_le_of_lt (second _ _ _ _ done) (first _ _ _ read)

theorem Keeps.bind {reader : TokenReader α} {next : α → TokenReader β} (first : Keeps reader)
    (second : ∀ value, Keeps (next value)) : Keeps (reader >>= next) := by
  intro tokens value rest h
  obtain ⟨middle, between, read, done⟩ := bind_eq_ok h
  exact Nat.le_trans (second _ _ _ _ done) (first _ _ _ read)

theorem Shortens.keeps {reader : TokenReader α} (h : Shortens reader) : Keeps reader :=
  fun tokens value rest read => Nat.le_of_lt (h tokens value rest read)

theorem identifier_shortens (expectation : Expectation) : Shortens (identifier expectation) :=
  (expect_shortens _ _).bind fun _ => pure_keeps _

theorem acceptKeyword_keeps (word : Keyword) : Keeps (acceptKeyword word) :=
  (accept?_keeps _).bind fun _ => pure_keeps _

end TokenReader

open TokenReader

/-- A reader that takes at least one token when it succeeds. -/
structure ItemReader (α : Type) where
  read : TokenReader α
  shortens : Shortens read

namespace ItemReader

variable {α : Type}

/-- Items that each follow a comma, up to the first token that is no comma. -/
def further (item : ItemReader α) : TokenReader (List α)
  | [] => .ok ([], [])
  | token :: tokens =>
    if token.isSymbol .comma then
      match _read : item.read tokens with
      | .error error => .error error
      | .ok (value, rest) =>
        match further item rest with
        | .error error => .error error
        | .ok (values, rest) => .ok (value :: values, rest)
    else .ok ([], token :: tokens)
termination_by tokens => tokens.length
decreasing_by
  have := item.shortens _ _ _ _read
  simp only [List.length_cons]
  omega

/-- One item, and more of them after commas. -/
def list (item : ItemReader α) : TokenReader (List α) := do
  let value ← item.read
  let values ← item.further
  return value :: values

end ItemReader

end TableStore
