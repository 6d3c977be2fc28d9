import TableStore.ColumnType
import TableStore.Proofs.Token.CharClass

/-! # The lexeme at the front

A piece of text that is written as a lexeme of some shape is the lexeme at the front, if what follows
does not prolong it. A name must not be followed by a word character, and it is a reserved word if its
capitals are; a number must not be followed by a digit.
-/

namespace TableStore

open Text

set_option autoImplicit false

/-- The text is a reserved word in some case. -/
def SpellsKeyword (cs : List Char) : Prop :=
  ∃ keyword : Keyword, cs.map Char.toUpper = keyword.word.toList

theorem spellsKeyword_iff (cs : List Char) :
    (∃ keyword ∈ Keyword.all, cs.map Char.toUpper = keyword.word.toList) ↔ SpellsKeyword cs := by
  constructor
  · rintro ⟨keyword, -, h⟩
    exact ⟨keyword, h⟩
  · rintro ⟨keyword, h⟩
    exact ⟨keyword, keyword.mem_all, h⟩

instance (cs : List Char) : Decidable (SpellsKeyword cs) :=
  decidable_of_iff _ (spellsKeyword_iff cs)

/-- After the blanks at the front comes the word BY. -/
def FollowedByBy (rest : List Char) : Prop :=
  (wordLength? ['B', 'Y'] (rest.dropWhile isBlank)).isSome

/-- The text is ORDER BY in some case, in two words with blanks between them. -/
def SpellsOrderBy (cs : List Char) : Prop :=
  ∃ order gap last, cs = order ++ (gap ++ last) ∧ order.map Char.toUpper = ['O', 'R', 'D', 'E', 'R'] ∧
    gap ≠ [] ∧ (∀ c ∈ gap, isBlank c = true) ∧ last.map Char.toUpper = ['B', 'Y']

theorem isName_of_order {cs : List Char} (h : cs.map Char.toUpper = ['O', 'R', 'D', 'E', 'R']) :
    IsName cs := by
  apply isName_of_map_toUpper
  rw [h]
  exact ⟨_, _, rfl, by decide, List.all_eq_true.mp (by decide)⟩

theorem isName_of_by {cs : List Char} (h : cs.map Char.toUpper = ['B', 'Y']) : IsName cs := by
  apply isName_of_map_toUpper
  rw [h]
  exact ⟨_, _, rfl, by decide, List.all_eq_true.mp (by decide)⟩

theorem Keyword.isName_word (keyword : Keyword) : IsName keyword.word.toList := by
  cases keyword <;> exact ⟨_, _, rfl, by decide, List.all_eq_true.mp (by decide)⟩

theorem SpellsKeyword.isName {cs : List Char} (h : SpellsKeyword cs) : IsName cs := by
  obtain ⟨keyword, hKeyword⟩ := h
  apply isName_of_map_toUpper
  rw [hKeyword]
  exact keyword.isName_word

theorem not_spellsKeyword {cs word : List Char} (h : cs.map Char.toUpper = word)
    (hOther : ∀ keyword : Keyword, word ≠ keyword.word.toList) : ¬SpellsKeyword cs := by
  rintro ⟨keyword, hKeyword⟩
  exact hOther keyword (h.symm.trans hKeyword)

/-- Neither half of ORDER BY is a reserved word of its own. -/
theorem not_spellsKeyword_of_order {cs : List Char}
    (h : cs.map Char.toUpper = ['O', 'R', 'D', 'E', 'R']) : ¬SpellsKeyword cs :=
  not_spellsKeyword h fun keyword => by cases keyword <;> decide

theorem not_spellsKeyword_of_by {cs : List Char} (h : cs.map Char.toUpper = ['B', 'Y']) :
    ¬SpellsKeyword cs :=
  not_spellsKeyword h fun keyword => by cases keyword <;> decide

theorem atWordEnd_head {c : Char} {rest : List Char} (h : isWord c = false) :
    atWordEnd (c :: rest) = true := by
  simp [atWordEnd, h]

namespace Shape

variable {cs rest : List Char}

theorem takeWhile_append_of_head {accept : Char → Bool} (h : ∀ c ∈ cs, accept c = true)
    (hRest : ∀ c, rest.head? = some c → accept c = false) : (cs ++ rest).takeWhile accept = cs := by
  rw [List.takeWhile_append_of_pos h]
  cases rest with
  | nil => simp
  | cons c rest => simp [hRest c rfl]

theorem runLength?_append {accept : Char → Bool} (hNonempty : cs ≠ [])
    (h : ∀ c ∈ cs, accept c = true) (hRest : ∀ c, rest.head? = some c → accept c = false) :
    runLength? accept (cs ++ rest) = some cs.length := by
  rw [runLength?, takeWhile_append_of_head h hRest]
  cases cs with
  | nil => exact absurd rfl hNonempty
  | cons c cs => rfl

theorem runLength?_of_head {accept : Char → Bool} {c : Char} (h : accept c = false) :
    runLength? accept (c :: rest) = none := by
  simp [runLength?, h]

theorem runLength?_of_isName (h : IsName cs) : runLength? isBlank (cs ++ rest) = none := by
  obtain ⟨first, others, rfl, hFirst⟩ := h.head_not_blank
  exact runLength?_of_head hFirst

theorem isWord_head_of_atWordEnd (h : atWordEnd rest = true) {c : Char} (hHead : rest.head? = some c) :
    isWord c = false := by
  cases rest with
  | nil => cases hHead
  | cons first rest =>
    cases hHead
    simpa [atWordEnd] using h

/-- By induction on the word: letter by letter, until one of the two ends. -/
theorem startsWithWord_append {word : List Char} (hWord : ∀ c ∈ word, c ∈ capitals)
    (hName : ∀ c ∈ cs, isNameRest c) (hRest : atWordEnd rest = true) :
    (startsWithWord word (cs ++ rest) && atWordEnd ((cs ++ rest).drop word.length)) =
      (cs.map Char.toUpper == word) := by
  induction word generalizing cs with
  | nil =>
    cases cs with
    | nil => simpa [startsWithWord] using hRest
    | cons c cs =>
      have hFirst := isWord_of_isNameRest (hName c List.mem_cons_self)
      simp [startsWithWord, atWordEnd, hFirst]
  | cons capital word ih =>
    have hCapital := hWord capital List.mem_cons_self
    cases cs with
    | nil =>
      cases rest with
      | nil => rfl
      | cons c rest =>
        have hFirst := isWord_head_of_atWordEnd hRest rfl
        simp [startsWithWord, matchesCapital_eq_false_of_isWord_eq_false hCapital hFirst]
    | cons c cs =>
      have hOthers := ih (fun other hOther => hWord other (List.mem_cons_of_mem _ hOther))
        (fun other hOther => hName other (List.mem_cons_of_mem _ hOther))
      have hMatches := matchesCapital_of_isNameRest hCapital (hName c List.mem_cons_self)
      rw [List.cons_append, startsWithWord, List.length_cons, List.drop_succ_cons, Bool.and_assoc,
        hOthers, hMatches]
      rfl

theorem wordLength?_append {word : List Char} (hWord : ∀ c ∈ word, c ∈ capitals)
    (hName : ∀ c ∈ cs, isNameRest c) (hRest : atWordEnd rest = true) :
    wordLength? word (cs ++ rest) = if cs.map Char.toUpper = word then some word.length else none := by
  simp only [wordLength?, startsWithWord_append hWord hName hRest, beq_iff_eq]

theorem runLength?_eq_some {accept : Char → Bool} {length : Nat}
    (h : runLength? accept cs = some length) :
    (cs.takeWhile accept).length = length ∧ cs.drop length = cs.dropWhile accept := by
  obtain rfl := length_takeWhile_of_runLength? h
  exact ⟨rfl, drop_length_takeWhile accept cs⟩

theorem head_of_runLength? {accept : Char → Bool} {length : Nat}
    (h : runLength? accept cs = some length) : ∃ c, cs.head? = some c ∧ accept c = true := by
  cases cs with
  | nil => cases h
  | cons c cs =>
    cases hFirst : accept c with
    | true => exact ⟨c, rfl, hFirst⟩
    | false =>
      rw [runLength?_of_head hFirst] at h
      cases h

/-- Blanks come only after all of the first word, and then it must be ORDER and BY must follow. -/
theorem orderByLength?_append (hName : ∀ c ∈ cs, isNameRest c) (hRest : atWordEnd rest = true)
    (hOrder : cs.map Char.toUpper = ['O', 'R', 'D', 'E', 'R'] → ¬FollowedByBy rest) :
    orderByLength? (cs ++ rest) = none := by
  rw [orderByLength?]
  split
  · next hStarts =>
    cases hGap : runLength? isBlank ((cs ++ rest).drop 5) with
    | none => rfl
    | some gap =>
      have hEnd : atWordEnd ((cs ++ rest).drop 5) = true := by
        obtain ⟨c, hHead, hBlank⟩ := head_of_runLength? hGap
        obtain ⟨after, hAfter⟩ := List.head?_eq_some_iff.mp hHead
        rw [hAfter]
        exact atWordEnd_head (isWord_eq_false_of_isBlank hBlank)
      have hMatch : (startsWithWord ['O', 'R', 'D', 'E', 'R'] (cs ++ rest) &&
          atWordEnd ((cs ++ rest).drop 5)) = (cs.map Char.toUpper == ['O', 'R', 'D', 'E', 'R']) :=
        startsWithWord_append (by simp [capitals]) hName hRest
      rw [hStarts, hEnd] at hMatch
      have hWord := eq_of_beq hMatch.symm
      have hLength : cs.length = 5 := by simpa using congrArg List.length hWord
      have hDrop : (cs ++ rest).drop 5 = rest := by rw [← hLength, List.drop_left]
      rw [hDrop] at hGap
      have hBy : wordLength? ['B', 'Y'] ((cs ++ rest).drop (5 + gap)) = none := by
        rw [← List.drop_drop, hDrop, (runLength?_eq_some hGap).2]
        simpa [FollowedByBy] using hOrder hWord
      simp [hBy]
  · rfl

theorem orderByLength?_of_spells (h : SpellsOrderBy cs) (hRest : atWordEnd rest = true) :
    orderByLength? (cs ++ rest) = some cs.length := by
  obtain ⟨order, gap, last, rfl, hOrder, hNonempty, hGap, hBy⟩ := h
  have hOrderName := isName_of_order hOrder
  have hByName := isName_of_by hBy
  have hOrderLength : order.length = 5 := by simpa using congrArg List.length hOrder
  have hByLength : last.length = 2 := by simpa using congrArg List.length hBy
  have hText : order ++ (gap ++ last) ++ rest = order ++ (gap ++ (last ++ rest)) := by simp
  have hEnd : atWordEnd (gap ++ (last ++ rest)) = true := by
    obtain ⟨c, others, rfl⟩ := List.exists_cons_of_ne_nil hNonempty
    exact atWordEnd_head (isWord_eq_false_of_isBlank (hGap c List.mem_cons_self))
  have hStarts : startsWithWord ['O', 'R', 'D', 'E', 'R'] (order ++ (gap ++ (last ++ rest))) = true := by
    have hBoth : (startsWithWord ['O', 'R', 'D', 'E', 'R'] (order ++ (gap ++ (last ++ rest))) &&
        atWordEnd ((order ++ (gap ++ (last ++ rest))).drop 5)) =
          (order.map Char.toUpper == ['O', 'R', 'D', 'E', 'R']) :=
      startsWithWord_append (by simp [capitals]) hOrderName.all_isNameRest hEnd
    rw [beq_iff_eq.mpr hOrder, Bool.and_eq_true] at hBoth
    exact hBoth.1
  have hDrop : (order ++ (gap ++ (last ++ rest))).drop 5 = gap ++ (last ++ rest) := by
    rw [← hOrderLength, List.drop_left]
  have hRun : runLength? isBlank (gap ++ (last ++ rest)) = some gap.length := by
    apply runLength?_append hNonempty hGap
    intro c hHead
    obtain ⟨first, others, rfl, hFirst⟩ := hByName.head_not_blank
    cases hHead
    exact hFirst
  have hLast : wordLength? ['B', 'Y'] (last ++ rest) = some 2 := by
    rw [wordLength?_append (by simp [capitals]) hByName.all_isNameRest hRest, if_pos hBy]
    rfl
  rw [hText, orderByLength?, if_pos hStarts, hDrop, hRun]
  simp only [Option.bind_eq_bind, Option.bind_some, ← List.drop_drop, hDrop, List.drop_left, hLast,
    Option.pure_def, List.length_append, hOrderLength, hByLength]
  rw [Nat.add_assoc]

theorem keywordLength?_of_name (hName : ∀ c ∈ cs, isNameRest c) (hRest : atWordEnd rest = true)
    (hOrder : cs.map Char.toUpper = ['O', 'R', 'D', 'E', 'R'] → ¬FollowedByBy rest)
    (hSpells : ¬SpellsKeyword cs) : keywordLength? (cs ++ rest) = none := by
  rw [keywordLength?, orderByLength?_append hName hRest hOrder, Option.none_or,
    List.findSome?_eq_none_iff]
  intro keyword _
  rw [wordLength?_append keyword.word_capitals hName hRest]
  exact if_neg fun hWord => hSpells ⟨keyword, hWord⟩

/-- Only one reserved word has these capitals, and no other is found before it. -/
theorem keywordLength?_of_spells (hName : ∀ c ∈ cs, isNameRest c) (hRest : atWordEnd rest = true)
    (hSpells : SpellsKeyword cs) : keywordLength? (cs ++ rest) = some cs.length := by
  have hOrder : orderByLength? (cs ++ rest) = none :=
    orderByLength?_append hName hRest fun hOrder => absurd hSpells (not_spellsKeyword_of_order hOrder)
  obtain ⟨keyword, hKeyword⟩ := hSpells
  rw [keywordLength?, hOrder, Option.none_or]
  have hFound : wordLength? keyword.word.toList (cs ++ rest) ≠ none := by
    rw [wordLength?_append keyword.word_capitals hName hRest, if_pos hKeyword]
    simp
  cases hSome : Keyword.all.findSome? fun keyword => wordLength? keyword.word.toList (cs ++ rest) with
  | none => exact absurd (List.findSome?_eq_none_iff.mp hSome keyword keyword.mem_all) hFound
  | some length =>
    obtain ⟨other, -, hOther⟩ := List.exists_of_findSome?_eq_some hSome
    rw [wordLength?_append other.word_capitals hName hRest] at hOther
    split at hOther
    · next hWord =>
      cases hOther
      rw [← hWord, List.length_map]
    · cases hOther

theorem keywordLength?_of_head {c : Char} (h : ∀ capital ∈ capitals, matchesCapital capital c = false) :
    keywordLength? (c :: rest) = none := by
  have hWord : ∀ {word : List Char}, word ≠ [] → (∀ c ∈ word, c ∈ capitals) →
      startsWithWord word (c :: rest) = false := by
    intro word hNonempty hWord
    cases word with
    | nil => exact absurd rfl hNonempty
    | cons capital word => simp [startsWithWord, h capital (hWord capital List.mem_cons_self)]
  have hOrder : orderByLength? (c :: rest) = none := by
    simp [orderByLength?, hWord (List.cons_ne_nil 'O' ['R', 'D', 'E', 'R']) (by simp [capitals])]
  rw [keywordLength?, hOrder, Option.none_or, List.findSome?_eq_none_iff]
  intro keyword _
  have hNonempty : keyword.word.toList ≠ [] := by cases keyword <;> decide
  simp [wordLength?, hWord hNonempty keyword.word_capitals]

theorem nameLength?_append (h : IsName cs) (hRest : atWordEnd rest = true) :
    nameLength? (cs ++ rest) = some cs.length := by
  obtain ⟨first, others, rfl, hFirst, hOthers⟩ := h
  have hStop : ∀ c, rest.head? = some c → isNameRest c = false := by
    intro c hHead
    rw [Bool.eq_false_iff]
    intro hName
    have hWord := isWord_head_of_atWordEnd hRest hHead
    rw [isWord_of_isNameRest hName] at hWord
    cases hWord
  rw [List.cons_append, nameLength?, if_pos hFirst, takeWhile_append_of_head hOthers hStop]
  rfl

theorem quotedLength?_append (h : IsQuoted cs) : quotedLength? (cs ++ rest) = some cs.length := by
  obtain ⟨quote, content, rfl, hQuote, hContent⟩ := h
  have hTake : (content ++ quote :: rest).takeWhile (· != quote) = content := by
    apply takeWhile_append_of_head
    · intro c hc
      rw [bne_iff_ne]
      rintro rfl
      exact hContent hc
    · intro c hHead
      cases hHead
      simp
  have hText : quote :: (content ++ [quote]) ++ rest = quote :: (content ++ quote :: rest) := by simp
  rw [hText, quotedLength?, hTake]
  simp [hQuote]

theorem numberLength?_append (h : IsNumber cs)
    (hRest : ∀ c, rest.head? = some c → isDigit c = false) :
    numberLength? (cs ++ rest) = some cs.length := by
  obtain ⟨digits, hNonempty, hDigits, rfl | rfl⟩ := h
  · have hRun := runLength?_append hNonempty hDigits hRest
    cases cs with
    | nil => exact absurd rfl hNonempty
    | cons first others =>
      have hFirst := hDigits first List.mem_cons_self
      unfold numberLength?
      split
      · next hSign =>
        cases hSign
        exact absurd hFirst (by decide)
      · exact hRun
  · rw [List.cons_append, numberLength?, runLength?_append hNonempty hDigits hRest]
    rfl

theorem keywordLength?_of_isWord_eq_false {c : Char} (h : isWord c = false) :
    keywordLength? (c :: rest) = none :=
  keywordLength?_of_head fun _ hCapital => matchesCapital_eq_false_of_isWord_eq_false hCapital h

theorem keywordLength?_of_isDigit {c : Char} (h : isDigit c = true) :
    keywordLength? (c :: rest) = none := by
  apply keywordLength?_of_head
  intro capital hCapital
  rw [Bool.eq_false_iff]
  intro hMatches
  rw [isDigit_eq_false_of_matchesCapital hCapital hMatches] at h
  cases h

theorem front?_blank (hNonempty : cs ≠ []) (h : ∀ c ∈ cs, isBlank c = true)
    (hRest : ∀ c, rest.head? = some c → isBlank c = false) :
    front? (cs ++ rest) = some (.blank, cs.length) := by
  simp [front?, all, length?, runLength?_append hNonempty h hRest]

theorem front?_keyword (h : SpellsKeyword cs) (hRest : atWordEnd rest = true) :
    front? (cs ++ rest) = some (.keyword, cs.length) := by
  have hKeyword := keywordLength?_of_spells h.isName.all_isNameRest hRest h
  have hBlank : runLength? isBlank (cs ++ rest) = none := runLength?_of_isName h.isName
  simp [front?, all, length?, hBlank, hKeyword]

theorem front?_orderBy (h : SpellsOrderBy cs) (hRest : atWordEnd rest = true) :
    front? (cs ++ rest) = some (.keyword, cs.length) := by
  have hLength := orderByLength?_of_spells h hRest
  have hKeyword : keywordLength? (cs ++ rest) = some cs.length := by
    rw [keywordLength?, hLength, Option.some_or]
  have hBlank : runLength? isBlank (cs ++ rest) = none := by
    obtain ⟨order, gap, last, rfl, hOrder, -, -, -⟩ := h
    rw [List.append_assoc]
    exact runLength?_of_isName (isName_of_order hOrder)
  simp [front?, all, length?, hBlank, hKeyword]

theorem front?_name (h : IsName cs) (hSpells : ¬SpellsKeyword cs) (hRest : atWordEnd rest = true)
    (hOrder : cs.map Char.toUpper = ['O', 'R', 'D', 'E', 'R'] → ¬FollowedByBy rest) :
    front? (cs ++ rest) = some (.name, cs.length) := by
  have hKeyword := keywordLength?_of_name h.all_isNameRest hRest hOrder hSpells
  have hName := nameLength?_append h hRest
  have hBlank : runLength? isBlank (cs ++ rest) = none := runLength?_of_isName h
  simp [front?, all, length?, hBlank, hKeyword, hName]

theorem front?_comparison (comparison : Comparison) :
    front? (comparison.text.toList ++ rest) = some (.comparison, comparison.text.toList.length) := by
  cases comparison <;> rfl

/-- A character that starts no blank, word or comparison leaves three shapes to try. -/
theorem front?_of_head {c : Char} (hBlank : isBlank c = false)
    (hKeyword : keywordLength? (c :: rest) = none) (hName : isNameStart c = false)
    (hComparison : isComparison c = false) :
    front? (c :: rest) = [quoted, number, symbol].findSome? fun shape =>
      (shape.length? (c :: rest)).map fun length => (shape, length) := by
  simp [front?, all, length?, runLength?_of_head hBlank, hKeyword, nameLength?, hName, charLength?,
    hComparison]

theorem front?_quoted (h : IsQuoted cs) : front? (cs ++ rest) = some (.quoted, cs.length) := by
  have hLength : quotedLength? (cs ++ rest) = some cs.length := quotedLength?_append h
  obtain ⟨quote, content, rfl, hQuote, -⟩ := h
  have hOthers : isBlank quote = false ∧ isWord quote = false ∧ isNameStart quote = false ∧
      isComparison quote = false := by
    simp only [isQuote, Bool.or_eq_true, beq_iff_eq] at hQuote
    rcases hQuote with rfl | rfl <;> decide
  obtain ⟨hBlank, hWord, hName, hComparison⟩ := hOthers
  rw [List.cons_append] at hLength ⊢
  rw [front?_of_head hBlank (keywordLength?_of_isWord_eq_false hWord) hName hComparison,
    List.findSome?_cons, length?, hLength]
  rfl

theorem front?_number (h : IsNumber cs) (hRest : ∀ c, rest.head? = some c → isDigit c = false) :
    front? (cs ++ rest) = some (.number, cs.length) := by
  have hLength : numberLength? (cs ++ rest) = some cs.length := numberLength?_append h hRest
  obtain ⟨digits, hNonempty, hDigits, rfl | rfl⟩ := h
  · cases cs with
    | nil => exact absurd rfl hNonempty
    | cons first others =>
      have hFirst := hDigits first List.mem_cons_self
      have hComparison : isComparison first = false := by
        cases hComparison : isComparison first with
        | false => rfl
        | true =>
          simp only [isComparison, Bool.or_eq_true, beq_iff_eq] at hComparison
          rcases hComparison with (rfl | rfl) | rfl <;> exact absurd hFirst (by decide)
      rw [List.cons_append] at hLength ⊢
      rw [front?_of_head (isBlank_eq_false_of_isDigit hFirst) (keywordLength?_of_isDigit hFirst)
        (isNameStart_eq_false_of_isDigit hFirst) hComparison]
      simp [length?, quotedLength?, isQuote_of_isDigit hFirst, hLength]
  · have hWord : isWord '-' = false := by decide
    have hQuote : isQuote '-' = false := by decide
    rw [List.cons_append] at hLength ⊢
    rw [front?_of_head (by decide) (keywordLength?_of_isWord_eq_false hWord) (by decide) (by decide)]
    simp [length?, quotedLength?, hQuote, hLength]

theorem front?_symbol (symbol : Symbol) :
    front? (symbol.text.toList ++ rest) = some (.symbol, symbol.text.toList.length) := by
  cases symbol <;> rfl

end Shape

end TableStore
