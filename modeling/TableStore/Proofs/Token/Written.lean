import TableStore.Token.Lexeme

/-! # How tokens are written

The text of a lexeme of some shape: a name is made of ASCII letters, digits and underscores, a
quoted text does not hold the quote that closes it, a number is a run of digits that may have a sign
in front. No token is empty.
-/

namespace TableStore

open Text

set_option autoImplicit false

def IsName (cs : List Char) : Prop :=
  ∃ first rest, cs = first :: rest ∧ isNameStart first ∧ ∀ c ∈ rest, isNameRest c

def IsQuoted (cs : List Char) : Prop :=
  ∃ quote content, cs = quote :: (content ++ [quote]) ∧ isQuote quote ∧ quote ∉ content

def IsNumber (cs : List Char) : Prop :=
  ∃ digits, digits ≠ [] ∧ (∀ c ∈ digits, isDigit c) ∧ (cs = digits ∨ cs = '-' :: digits)

namespace Shape

theorem take_length_takeWhile (accept : Char → Bool) (cs : List Char) :
    cs.take (cs.takeWhile accept).length = cs.takeWhile accept :=
  (List.prefix_iff_eq_take.mp (List.takeWhile_prefix accept)).symm

theorem drop_length_takeWhile (accept : Char → Bool) (cs : List Char) :
    cs.drop (cs.takeWhile accept).length = cs.dropWhile accept := by
  have hSplit : (cs.takeWhile accept ++ cs.dropWhile accept).drop (cs.takeWhile accept).length =
      cs.dropWhile accept := List.drop_left
  rwa [List.takeWhile_append_dropWhile] at hSplit

theorem length_takeWhile_of_runLength? {accept : Char → Bool} {cs : List Char} {length : Nat}
    (h : runLength? accept cs = some length) : (cs.takeWhile accept).length = length := by
  rw [runLength?] at h
  split at h
  · cases h
  · next fewer hFewer =>
    cases h
    exact hFewer

theorem take_of_runLength? {accept : Char → Bool} {cs : List Char} {length : Nat}
    (h : runLength? accept cs = some length) :
    cs.take length ≠ [] ∧ ∀ c ∈ cs.take length, accept c := by
  obtain ⟨hPositive, hBound⟩ := runLength?_measures accept cs length h
  refine ⟨?_, ?_⟩
  · intro hEmpty
    have hLength := congrArg List.length hEmpty
    simp only [List.length_take, List.length_nil] at hLength
    omega
  · rw [← length_takeWhile_of_runLength? h, take_length_takeWhile]
    exact List.all_eq_true.mp List.all_takeWhile

theorem isName_of_nameLength? {cs : List Char} {length : Nat} (h : nameLength? cs = some length) :
    IsName (cs.take length) := by
  cases cs with
  | nil => cases h
  | cons first rest =>
    rw [nameLength?] at h
    split at h
    · next hFirst =>
      cases h
      refine ⟨first, rest.takeWhile isNameRest, ?_, hFirst, List.all_eq_true.mp List.all_takeWhile⟩
      rw [List.take_succ_cons, take_length_takeWhile]
    · cases h

theorem isQuoted_of_quotedLength? {cs : List Char} {length : Nat}
    (h : quotedLength? cs = some length) : IsQuoted (cs.take length) := by
  cases cs with
  | nil => cases h
  | cons quote rest =>
    rw [quotedLength?] at h
    split at h
    · next hQuote =>
      cases h
      simp only [Bool.and_eq_true, List.contains_iff_mem] at hQuote
      obtain ⟨content, after, rfl, hContent⟩ := List.eq_append_cons_of_mem hQuote.2
      have hBefore : (content ++ quote :: after).takeWhile (· != quote) = content := by
        rw [List.takeWhile_append_of_pos]
        · simp
        · intro c hc
          simp only [bne_iff_ne, ne_eq]
          rintro rfl
          exact hContent hc
      refine ⟨quote, content, ?_, hQuote.1, hContent⟩
      rw [hBefore, List.take_succ_cons, List.take_append, List.take_of_length_le (Nat.le_succ _)]
      simp
    · cases h

theorem isNumber_of_numberLength? {cs : List Char} {length : Nat}
    (h : numberLength? cs = some length) : IsNumber (cs.take length) := by
  unfold numberLength? at h
  split at h
  · next cs =>
    obtain ⟨digits, hDigits, rfl⟩ := Option.map_eq_some_iff.mp h
    obtain ⟨hNonempty, hAll⟩ := take_of_runLength? hDigits
    exact ⟨cs.take digits, hNonempty, hAll, .inr rfl⟩
  · obtain ⟨hNonempty, hAll⟩ := take_of_runLength? h
    exact ⟨cs.take length, hNonempty, hAll, .inl rfl⟩

theorem take_of_charLength? {accept : Char → Bool} {cs : List Char} {length : Nat}
    (h : charLength? accept cs = some length) : ∃ c, cs.take length = [c] ∧ accept c := by
  cases cs with
  | nil => cases h
  | cons c cs =>
    rw [charLength?] at h
    split at h
    · next hAccept =>
      cases h
      exact ⟨c, rfl, hAccept⟩
    · cases h

theorem length?_of_front? {cs : List Char} {shape : Shape} {length : Nat}
    (h : front? cs = some (shape, length)) : shape.length? cs = some length := by
  obtain ⟨found, -, hFound⟩ := List.exists_of_findSome?_eq_some h
  obtain ⟨measured, hMeasured, hSame⟩ := Option.map_eq_some_iff.mp hFound
  cases hSame
  exact hMeasured

end Shape

/-- A lexeme with a shape is what that shape took off the front of the text from there on. -/
theorem exists_front?_of_mem_segmentAfter {passed : Nat} {cs : List Char} {lexeme : Lexeme}
    {shape : Shape} (h : lexeme ∈ segmentAfter passed cs) (hShape : lexeme.shape = some shape) :
    ∃ source length, source <:+ cs ∧ Shape.front? source = some (shape, length) ∧
      lexeme.text = source.take length := by
  induction cs generalizing passed with
  | nil => cases passed <;> cases h
  | cons c cs ih =>
    have hRest : ∀ {passed}, lexeme ∈ segmentAfter passed cs →
        ∃ source length, source <:+ c :: cs ∧ Shape.front? source = some (shape, length) ∧
          lexeme.text = source.take length := by
      intro passed hLater
      obtain ⟨source, length, hSuffix, hFound⟩ := ih hLater
      exact ⟨source, length, hSuffix.trans (List.suffix_cons c cs), hFound⟩
    cases passed with
    | succ passed => exact hRest h
    | zero =>
      rw [segmentAfter] at h
      split at h
      · next found length hFront =>
        rcases List.mem_cons.mp h with rfl | hLater
        · cases hShape
          exact ⟨c :: cs, length, List.suffix_refl _, hFront, rfl⟩
        · exact hRest hLater
      · rcases List.mem_cons.mp h with rfl | hLater
        · cases hShape
        · exact hRest hLater

theorem mem_of_mem_place {position start : Position} {lexeme : Lexeme} {lexemes : List Lexeme}
    (h : (position, lexeme) ∈ place start lexemes) : lexeme ∈ lexemes := by
  induction lexemes generalizing start with
  | nil => cases h
  | cons first lexemes ih =>
    rcases List.mem_cons.mp h with hSame | hLater
    · cases hSame
      exact List.mem_cons_self
    · exact List.mem_cons_of_mem _ (ih hLater)

theorem exists_lexeme_of_mem_tokens {text : String} {token : Token} (h : token ∈ tokens text) :
    ∃ lexeme ∈ segment text.toList, ∃ position, lexeme.token? position = some token := by
  obtain ⟨⟨position, lexeme⟩, hPlaced, hToken⟩ := List.mem_filterMap.mp h
  exact ⟨lexeme, mem_of_mem_place hPlaced, position, hToken⟩

namespace TokenKind

def shape : TokenKind → Shape
  | keyword => .keyword
  | identifier => .name
  | string => .quoted
  | number => .number
  | comparison => .comparison
  | symbol => .symbol

/-- The value of the token that is written so. -/
def value : TokenKind → List Char → String
  | keyword, cs => keywordValue cs
  | _, cs => String.ofList cs

theorem value_of_ne_keyword {kind : TokenKind} (h : kind ≠ .keyword) (cs : List Char) :
    kind.value cs = String.ofList cs := by
  cases kind with
  | keyword => exact absurd rfl h
  | identifier | string | number | comparison | symbol => rfl

end TokenKind

theorem Lexeme.token?_eq_some {lexeme : Lexeme} {position : Position} {token : Token}
    (h : lexeme.token? position = some token) :
    lexeme.shape = some token.kind.shape ∧ token.value = token.kind.value lexeme.text ∧
      token.position = position := by
  obtain ⟨shape, text⟩ := lexeme
  cases shape with
  | none => cases h
  | some shape =>
    cases shape with
    | blank => cases h
    | keyword | name | comparison | quoted | number | symbol =>
      cases h
      exact ⟨rfl, rfl, rfl⟩

/-- A token is what the shape of its kind took off the front of the text from there on. -/
theorem exists_front?_of_mem_tokens {text : String} {token : Token} (h : token ∈ tokens text) :
    ∃ source length, source <:+ text.toList ∧
      Shape.front? source = some (token.kind.shape, length) ∧
      token.value = token.kind.value (source.take length) := by
  obtain ⟨lexeme, hLexeme, position, hToken⟩ := exists_lexeme_of_mem_tokens h
  obtain ⟨hShape, hValue, -⟩ := Lexeme.token?_eq_some hToken
  obtain ⟨source, length, hSuffix, hFront, hText⟩ := exists_front?_of_mem_segmentAfter hLexeme hShape
  rw [hText] at hValue
  exact ⟨source, length, hSuffix, hFront, hValue⟩

theorem joinBlanks_ne_nil {cs : List Char} (h : cs ≠ []) : joinBlanks cs ≠ [] := by
  induction cs with
  | nil => exact absurd rfl h
  | cons c cs ih =>
    rw [joinBlanks]
    split
    · split
      · next hNext =>
        apply ih
        rintro rfl
        cases hNext
      · simp
    · simp

theorem Text.CaseMapping.apply_ne_nil {mapping : CaseMapping}
    (h : ∀ expansion ∈ mapping.expansions, expansion.2 ≠ []) (c : Char) : mapping.apply c ≠ [] := by
  rw [apply]
  split
  · next codes hCodes =>
    obtain ⟨before, after, hSplit, -⟩ := List.lookup_eq_some_iff.mp hCodes
    have hMember : (c.toNat, codes) ∈ mapping.expansions := by simp [hSplit]
    simpa using h _ hMember
  · split <;> simp

theorem upperChar_ne_nil (c : Char) : upperChar c ≠ [] := by
  rw [upperChar]
  split
  · simp
  · exact CaseMapping.apply_ne_nil (by decide) c

/-- What is known of the value of a token from its kind. -/
def Token.Written (token : Token) : Prop :=
  match token.kind with
  | .keyword => token.value ≠ ""
  | .identifier => IsName token.value.toList
  | .string => IsQuoted token.value.toList
  | .number => IsNumber token.value.toList
  | .comparison => ∃ c, token.value = String.singleton c ∧ isComparison c
  | .symbol => ∃ symbol : Symbol, token.value = symbol.text

theorem keywordValue_ne_empty {cs : List Char} (h : cs ≠ []) : keywordValue cs ≠ "" := by
  have hUpper : cs.flatMap upperChar ≠ [] := by
    cases cs with
    | nil => exact absurd rfl h
    | cons c cs => simp [upperChar_ne_nil]
  simpa [keywordValue] using joinBlanks_ne_nil hUpper

theorem written_of_mem_tokens {text : String} {token : Token} (h : token ∈ tokens text) :
    token.Written := by
  obtain ⟨source, length, -, hFront, hValue⟩ := exists_front?_of_mem_tokens h
  have hLength := Shape.length?_of_front? hFront
  rw [Token.Written]
  cases hKind : token.kind with
  | keyword =>
    rw [hKind] at hValue
    obtain ⟨hPositive, hBound⟩ := Shape.length_bounds_of_front? hFront
    rw [hValue]
    apply keywordValue_ne_empty
    intro hEmpty
    have hTaken := congrArg List.length hEmpty
    simp only [List.length_take, List.length_nil] at hTaken
    omega
  | identifier =>
    rw [hKind] at hValue hLength
    rw [hValue, TokenKind.value_of_ne_keyword (by decide), String.toList_ofList]
    exact Shape.isName_of_nameLength? hLength
  | string =>
    rw [hKind] at hValue hLength
    rw [hValue, TokenKind.value_of_ne_keyword (by decide), String.toList_ofList]
    exact Shape.isQuoted_of_quotedLength? hLength
  | number =>
    rw [hKind] at hValue hLength
    rw [hValue, TokenKind.value_of_ne_keyword (by decide), String.toList_ofList]
    exact Shape.isNumber_of_numberLength? hLength
  | comparison =>
    rw [hKind] at hValue hLength
    obtain ⟨c, hTake, hComparison⟩ := Shape.take_of_charLength? hLength
    refine ⟨c, ?_, hComparison⟩
    rw [hValue, TokenKind.value_of_ne_keyword (by decide), hTake, String.singleton_eq_ofList]
  | symbol =>
    rw [hKind] at hValue hLength
    obtain ⟨c, hTake, hSymbol⟩ := Shape.take_of_charLength? hLength
    obtain ⟨symbol, -, hChar⟩ := List.any_eq_true.mp hSymbol
    refine ⟨symbol, ?_⟩
    rw [hValue, TokenKind.value_of_ne_keyword (by decide), hTake, Symbol.text, eq_of_beq hChar,
      String.singleton_eq_ofList]

theorem IsName.ne_nil {cs : List Char} (h : IsName cs) : cs ≠ [] := by
  obtain ⟨first, rest, rfl, -, -⟩ := h
  simp

theorem IsQuoted.ne_nil {cs : List Char} (h : IsQuoted cs) : cs ≠ [] := by
  obtain ⟨quote, content, rfl, -, -⟩ := h
  simp

theorem IsNumber.ne_nil {cs : List Char} (h : IsNumber cs) : cs ≠ [] := by
  obtain ⟨digits, hNonempty, -, rfl | rfl⟩ := h
  · exact hNonempty
  · simp

theorem IsNumber.forall_mem {cs : List Char} {law : Char → Prop} (h : IsNumber cs) (hSign : law '-')
    (hDigit : ∀ c, isDigit c → law c) : ∀ c ∈ cs, law c := by
  obtain ⟨digits, -, hDigits, rfl | rfl⟩ := h
  · exact fun c hc => hDigit c (hDigits c hc)
  · exact List.forall_mem_cons.mpr ⟨hSign, fun c hc => hDigit c (hDigits c hc)⟩

theorem value_ne_empty_of_mem_tokens {text : String} {token : Token} (h : token ∈ tokens text) :
    token.value ≠ "" := by
  have hWritten := written_of_mem_tokens h
  simp only [Token.Written] at hWritten
  rintro hEmpty
  split at hWritten
  · exact hWritten hEmpty
  · exact hWritten.ne_nil (by simp [hEmpty])
  · exact hWritten.ne_nil (by simp [hEmpty])
  · exact hWritten.ne_nil (by simp [hEmpty])
  · obtain ⟨c, hValue, -⟩ := hWritten
    simp [hEmpty] at hValue
  · obtain ⟨symbol, hValue⟩ := hWritten
    simp [hEmpty, Symbol.text] at hValue

end TableStore
