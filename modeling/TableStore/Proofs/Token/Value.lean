import TableStore.Proofs.Text.Pieces
import TableStore.Proofs.Token.Front

/-! # Values of tokens

Only a quoted text can hold blanks, and then the first of its pieces starts with the quote: the blanks
of a keyword are underscores in its value. And only a comparison has a comparison for its value,
because each kind of token starts with a character of its own.
-/

namespace TableStore

open Text

set_option autoImplicit false

theorem isBlank_eq_false_of_mem_joinBlanks {cs : List Char} {c : Char} (h : c ∈ joinBlanks cs) :
    isBlank c = false := by
  induction cs with
  | nil => cases h
  | cons first cs ih =>
    rw [joinBlanks] at h
    split at h
    · split at h
      · exact ih h
      · rcases List.mem_cons.mp h with rfl | h
        · decide
        · exact ih h
    · next hFirst =>
      rcases List.mem_cons.mp h with rfl | h
      · simpa using hFirst
      · exact ih h

theorem isBlank_eq_false_of_singleton {c : Char} (h : isBlank c = false) :
    ∀ other ∈ (String.singleton c).toList, isBlank other = false := by
  simpa using h

def StartsWithQuote (text : String) : Prop :=
  ∃ quote rest, text.toList = quote :: rest ∧ isQuote quote = true

theorem IsQuoted.exists_pieces_of_blank {text : String} (h : IsQuoted text.toList) {blank : Char}
    (hMember : blank ∈ text.toList) (hBlank : isBlank blank = true) :
    ∃ first second others, pieces text = first :: second :: others ∧ StartsWithQuote first := by
  obtain ⟨quote, content, hText, hQuote, -⟩ := h
  have hEnds := isBlank_eq_false_of_isQuote hQuote
  have hInside : blank ∈ content := by
    rw [hText] at hMember
    simp only [List.mem_cons, List.mem_append, List.not_mem_nil, or_false] at hMember
    rcases hMember with rfl | hInside | rfl
    · simp [hBlank] at hEnds
    · exact hInside
    · simp [hBlank] at hEnds
  obtain ⟨before, after, rfl⟩ := List.append_of_mem hInside
  obtain ⟨piece, others, hBefore⟩ := exists_pieceChars_of_head hEnds before
  have hAfter : pieceChars (after ++ [quote]) ≠ [] := pieceChars_ne_nil (by simp) hEnds
  have hOthers : others ++ pieceChars (after ++ [quote]) ≠ [] := List.append_ne_nil_of_right_ne_nil _ hAfter
  obtain ⟨second, further, hSecond⟩ := List.exists_cons_of_ne_nil hOthers
  have hSplit : text.toList = (quote :: before) ++ blank :: (after ++ [quote]) := by simp [hText]
  refine ⟨String.ofList (quote :: piece), String.ofList second, further.map String.ofList, ?_, ?_⟩
  · rw [pieces, hSplit, pieceChars_append hBlank, hBefore, List.cons_append, hSecond]
    rfl
  · exact ⟨quote, piece, String.toList_ofList, hQuote⟩

theorem isWord_head_upperChar {capital c : Char} (hCapital : capital ∈ capitals)
    (h : matchesCapital capital c = true) : ∃ first rest, upperChar c = first :: rest ∧ isWord first := by
  have hHead : (upperChar c).head?.any isWord = true :=
    matchesCapital_induction (fun c => (upperChar c).head?.any isWord) hCapital h (by decide +kernel)
      (by decide +kernel)
  cases hUpper : upperChar c with
  | nil =>
    rw [hUpper] at hHead
    cases hHead
  | cons first rest =>
    rw [hUpper] at hHead
    exact ⟨first, rest, rfl, hHead⟩

theorem isWord_head_keywordValue {source : List Char} {length : Nat}
    (h : keywordLength? source = some length) :
    ∃ first rest, (keywordValue (source.take length)).toList = first :: rest ∧ isWord first := by
  obtain ⟨hPositive, -⟩ := Shape.keywordLength?_measures _ _ h
  cases source with
  | nil => cases h
  | cons c source =>
    obtain ⟨fewer, rfl⟩ := Nat.exists_eq_succ_of_ne_zero (Nat.ne_of_gt hPositive)
    have hLetter : capitals.any (matchesCapital · c) = true := by
      rw [← Bool.not_eq_false]
      intro hNone
      have hOther : keywordLength? (c :: source) = none :=
        Shape.keywordLength?_of_head fun capital hCapital => by
          simpa using List.any_eq_false.mp hNone capital hCapital
      rw [h] at hOther
      cases hOther
    obtain ⟨capital, hCapital, hMatches⟩ := List.any_eq_true.mp hLetter
    obtain ⟨first, rest, hUpper, hWord⟩ := isWord_head_upperChar hCapital hMatches
    have hBlank : isBlank first = false := by
      rw [Bool.eq_false_iff]
      intro hBlank
      rw [isWord_eq_false_of_isBlank hBlank] at hWord
      cases hWord
    refine ⟨first, joinBlanks (rest ++ (source.take fewer).flatMap upperChar), ?_, hWord⟩
    rw [keywordValue, String.toList_ofList, List.take_succ_cons, List.flatMap_cons, hUpper,
      List.cons_append, joinBlanks, hBlank]
    rfl

namespace Token

variable {text : String} {token : Token}

theorem exists_keyword_of_mem_tokens (h : token ∈ tokens text) (hKind : token.kind = .keyword) :
    ∃ source length, keywordLength? source = some length ∧
      token.value = keywordValue (source.take length) := by
  obtain ⟨source, length, -, hFront, hValue⟩ := exists_front?_of_mem_tokens h
  rw [hKind] at hFront hValue
  exact ⟨source, length, Shape.length?_of_front? hFront, hValue⟩

theorem isBlank_eq_false_of_mem_tokens (h : token ∈ tokens text) (hKind : token.kind ≠ .string) :
    ∀ c ∈ token.value.toList, isBlank c = false := by
  have hWritten := written_of_mem_tokens h
  rw [Written] at hWritten
  cases hToken : token.kind with
  | string => exact absurd hToken hKind
  | keyword =>
    obtain ⟨source, length, -, hValue⟩ := exists_keyword_of_mem_tokens h hToken
    rw [hValue, keywordValue, String.toList_ofList]
    exact fun c hc => isBlank_eq_false_of_mem_joinBlanks hc
  | identifier =>
    rw [hToken] at hWritten
    exact IsName.isBlank_eq_false hWritten
  | number =>
    rw [hToken] at hWritten
    exact IsNumber.isBlank_eq_false hWritten
  | comparison =>
    rw [hToken] at hWritten
    obtain ⟨c, hValue, hComparison⟩ := hWritten
    simp only [isComparison, Bool.or_eq_true, beq_iff_eq] at hComparison
    rw [hValue]
    rcases hComparison with (rfl | rfl) | rfl <;> exact isBlank_eq_false_of_singleton (by decide)
  | symbol =>
    rw [hToken] at hWritten
    obtain ⟨symbol, hValue⟩ := hWritten
    rw [hValue]
    cases symbol <;> exact isBlank_eq_false_of_singleton (by decide)

/-- A token is one piece, or it is a quoted text and its first piece starts with the quote. -/
theorem pieces_of_mem_tokens (h : token ∈ tokens text) :
    (pieces token.value = [token.value] ∧ ∀ c ∈ token.value.toList, isBlank c = false) ∨
      ∃ first second others, pieces token.value = first :: second :: others ∧
        StartsWithQuote first := by
  cases hBlanks : token.value.toList.any isBlank with
  | false =>
    have hWord : ∀ c ∈ token.value.toList, isBlank c = false := by simpa using hBlanks
    exact .inl ⟨pieces_word (value_ne_empty_of_mem_tokens h) hWord, hWord⟩
  | true =>
    obtain ⟨blank, hMember, hBlank⟩ := List.any_eq_true.mp hBlanks
    have hKind : token.kind = .string := by
      refine Decidable.of_not_not fun hKind => ?_
      rw [isBlank_eq_false_of_mem_tokens h hKind blank hMember] at hBlank
      cases hBlank
    have hQuoted := written_of_mem_tokens h
    rw [Written, hKind] at hQuoted
    exact .inr (IsQuoted.exists_pieces_of_blank hQuoted hMember hBlank)

theorem Written.exists_comparison (h : token.Written) (hKind : token.kind = .comparison) :
    ∃ comparison : Comparison, token.value = comparison.text := by
  rw [Written, hKind] at h
  obtain ⟨c, hValue, hComparison⟩ := h
  simp only [isComparison, Bool.or_eq_true, beq_iff_eq] at hComparison
  rcases hComparison with (rfl | rfl) | rfl
  · exact ⟨.equal, hValue⟩
  · exact ⟨.less, hValue⟩
  · exact ⟨.greater, hValue⟩

theorem kind_eq_comparison_of_mem_tokens (h : token ∈ tokens text) {comparison : Comparison}
    (hValue : token.value = comparison.text) : token.kind = .comparison := by
  obtain ⟨sign, hSign, hOthers⟩ : ∃ sign, token.value.toList = [sign] ∧
      (isWord sign || isNameRest sign || isQuote sign || isDigit sign || sign == '-' ||
        isSymbolChar sign) = false := by
    rw [hValue]
    cases comparison <;> exact ⟨_, rfl, by decide⟩
  simp only [Bool.or_eq_false_iff] at hOthers
  obtain ⟨⟨⟨⟨⟨hWord, hName⟩, hQuote⟩, hDigit⟩, hMinus⟩, hSymbol⟩ := hOthers
  have hWritten := written_of_mem_tokens h
  rw [Written] at hWritten
  cases hKind : token.kind with
  | comparison => rfl
  | keyword =>
    obtain ⟨source, length, hLength, hKeyword⟩ := exists_keyword_of_mem_tokens h hKind
    obtain ⟨first, rest, hHead, hFirst⟩ := isWord_head_keywordValue hLength
    rw [← hKeyword, hSign] at hHead
    cases hHead
    rw [hFirst] at hWord
    cases hWord
  | identifier =>
    rw [hKind, hSign] at hWritten
    have hFirst := IsName.all_isNameRest hWritten sign (by simp)
    rw [hFirst] at hName
    cases hName
  | string =>
    rw [hKind, hSign] at hWritten
    obtain ⟨quote, content, hText, -, -⟩ := hWritten
    have hLength := congrArg List.length hText
    simp at hLength
  | number =>
    rw [hKind, hSign] at hWritten
    obtain ⟨digits, hNonempty, hDigits, rfl | hText⟩ := hWritten
    · rw [hDigits sign (by simp)] at hDigit
      cases hDigit
    · obtain ⟨rfl, -⟩ := List.cons.inj hText
      cases hMinus
  | symbol =>
    rw [hKind] at hWritten
    obtain ⟨symbol, hSame⟩ := hWritten
    have hFirst : isSymbolChar sign = true := by
      rw [hSame] at hSign
      cases symbol <;> cases hSign <;> decide
    rw [hFirst] at hSymbol
    cases hSymbol

end Token

end TableStore
