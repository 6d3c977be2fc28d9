import Mathlib.Data.List.Chain
import Mathlib.Data.List.TakeWhile
import TableStore.Proofs.Token.Front

/-! # Reading what is written

Tokens that are written one after another, each with blanks after it, are read as these tokens. A word
must end where it ends, so something that is no word character has to follow it, and a number must not
run into another digit.
-/

namespace TableStore

open Text

set_option autoImplicit false

namespace TokenKind

/-- The text is written as a token of the kind. -/
def Spells : TokenKind → List Char → Prop
  | keyword, cs => SpellsKeyword cs ∨ SpellsOrderBy cs
  | identifier, cs => IsName cs ∧ ¬SpellsKeyword cs
  | string, cs => IsQuoted cs
  | number, cs => IsNumber cs
  | comparison, cs => ∃ comparison : Comparison, cs = comparison.text.toList
  | symbol, cs => ∃ symbol : Symbol, cs = symbol.text.toList

/-- The rest does not prolong a token of the kind. -/
def Ends : TokenKind → List Char → Prop
  | keyword, rest => atWordEnd rest = true
  | identifier, rest => atWordEnd rest = true
  | number, rest => ∀ c, rest.head? = some c → isDigit c = false
  | _, _ => True

theorem ends_nil (kind : TokenKind) : kind.Ends [] := by
  cases kind <;> simp [Ends, atWordEnd]

theorem ends_blank (kind : TokenKind) {c : Char} (h : isBlank c = true) (rest : List Char) :
    kind.Ends (c :: rest) := by
  cases kind with
  | keyword | identifier => exact atWordEnd_head (isWord_eq_false_of_isBlank h)
  | number =>
    intro first hFirst
    cases hFirst
    cases hDigit : isDigit c with
    | false => rfl
    | true =>
      rw [isBlank_eq_false_of_isDigit hDigit] at h
      cases h
  | string | comparison | symbol => trivial

end TokenKind

theorem front?_of_spells {kind : TokenKind} {cs rest : List Char} (h : kind.Spells cs)
    (hEnds : kind.Ends rest)
    (hOrder : cs.map Char.toUpper = ['O', 'R', 'D', 'E', 'R'] → ¬FollowedByBy rest) :
    Shape.front? (cs ++ rest) = some (kind.shape, cs.length) := by
  cases kind with
  | keyword =>
    rcases h with hWord | hOrderBy
    · exact Shape.front?_keyword hWord hEnds
    · exact Shape.front?_orderBy hOrderBy hEnds
  | identifier => exact Shape.front?_name h.1 h.2 hEnds hOrder
  | string => exact Shape.front?_quoted h
  | number => exact Shape.front?_number h hEnds
  | comparison =>
    obtain ⟨comparison, rfl⟩ := h
    exact Shape.front?_comparison comparison
  | symbol =>
    obtain ⟨symbol, rfl⟩ := h
    exact Shape.front?_symbol symbol

theorem segmentAfter_eq_segment_drop (passed : Nat) (cs : List Char) :
    segmentAfter passed cs = segment (cs.drop passed) := by
  induction cs generalizing passed with
  | nil => cases passed <;> rfl
  | cons c cs ih =>
    cases passed with
    | zero => rfl
    | succ passed => exact ih passed

theorem segment_append {cs rest : List Char} {shape : Shape}
    (h : Shape.front? (cs ++ rest) = some (shape, cs.length)) :
    segment (cs ++ rest) = ⟨some shape, cs⟩ :: segment rest := by
  have hPositive := (Shape.length_bounds_of_front? h).1
  cases cs with
  | nil => cases hPositive
  | cons c cs =>
    rw [List.cons_append] at h ⊢
    rw [segment, segmentAfter, h]
    simp [segmentAfter_eq_segment_drop]

theorem isBlank_of_mem_space : ∀ c ∈ [' '], isBlank c = true :=
  List.forall_mem_singleton.mpr (by decide)

/-- A token as it is written, with the blanks that follow it. -/
structure Spelling where
  kind : TokenKind
  text : List Char
  gap : List Char

namespace Spelling

def chars (spelling : Spelling) : List Char :=
  spelling.text ++ spelling.gap

/-- The lexemes of one written token. -/
def lexemes (spelling : Spelling) : List Lexeme :=
  ⟨some spelling.kind.shape, spelling.text⟩ ::
    if spelling.gap.isEmpty then [] else [⟨some .blank, spelling.gap⟩]

/-- What one written token is read as. -/
def reading (spelling : Spelling) : TokenKind × String :=
  (spelling.kind, spelling.kind.value spelling.text)

/-- Each token is spelled, and what follows does not prolong it or its blanks. -/
def Separate : List Spelling → Prop
  | [] => True
  | spelling :: spellings =>
    spelling.kind.Spells spelling.text ∧ (∀ c ∈ spelling.gap, isBlank c = true) ∧
      spelling.kind.Ends (spelling.gap ++ spellings.flatMap chars) ∧
      (spelling.text.map Char.toUpper = ['O', 'R', 'D', 'E', 'R'] →
        ¬FollowedByBy (spelling.gap ++ spellings.flatMap chars)) ∧
      Separate spellings

end Spelling

def Token.reading (token : Token) : TokenKind × String :=
  (token.kind, token.value)

theorem TokenKind.Spells.head_not_blank {kind : TokenKind} {cs : List Char} (h : kind.Spells cs) :
    ∃ c rest, cs = c :: rest ∧ isBlank c = false := by
  cases kind with
  | keyword =>
    rcases h with hWord | ⟨order, gap, last, rfl, hOrder, -⟩
    · exact hWord.isName.head_not_blank
    · obtain ⟨first, rest, rfl, hFirst⟩ := (isName_of_order hOrder).head_not_blank
      exact ⟨first, _, rfl, hFirst⟩
  | identifier => exact h.1.head_not_blank
  | string =>
    obtain ⟨quote, content, rfl, hQuote, -⟩ := h
    exact ⟨quote, _, rfl, isBlank_eq_false_of_isQuote hQuote⟩
  | number => exact IsNumber.head_not_blank h
  | comparison =>
    obtain ⟨comparison, rfl⟩ := h
    cases comparison <;> exact ⟨_, _, rfl, by decide⟩
  | symbol =>
    obtain ⟨symbol, rfl⟩ := h
    cases symbol <;> exact ⟨_, _, rfl, by decide⟩

namespace Spelling

theorem Separate.head_not_blank {spellings : List Spelling} (h : Separate spellings) (c : Char)
    (hHead : (spellings.flatMap chars).head? = some c) : isBlank c = false := by
  cases spellings with
  | nil => cases hHead
  | cons spelling spellings =>
    obtain ⟨first, rest, hText, hBlank⟩ := h.1.head_not_blank
    rw [List.flatMap_cons, chars, hText] at hHead
    cases hHead
    exact hBlank

/-- By induction on the written tokens: each one and its blanks are cut off the front. -/
theorem segment_of_separate {spellings : List Spelling} (h : Separate spellings) :
    segment (spellings.flatMap chars) = spellings.flatMap lexemes := by
  induction spellings with
  | nil => rfl
  | cons spelling spellings ih =>
    have hHead := h.2.2.2.2.head_not_blank
    obtain ⟨hSpells, hGap, hEnds, hOrder, hOthers⟩ := h
    have hFront := front?_of_spells hSpells hEnds hOrder
    rw [List.flatMap_cons, List.flatMap_cons, chars, List.append_assoc, segment_append hFront, lexemes,
      List.cons_append]
    congr 1
    cases hEmpty : spelling.gap with
    | nil => exact ih hOthers
    | cons c gap =>
      rw [← hEmpty, segment_append (Shape.front?_blank (by simp [hEmpty]) hGap hHead), ih hOthers]
      simp [hEmpty]

end Spelling

/-- Words and numbers that stand side by side run into each other. -/
def TokenKind.runsOn : TokenKind → Bool
  | keyword | identifier | number => true
  | string | comparison | symbol => false

theorem TokenKind.Spells.head_not_word {kind : TokenKind} {cs : List Char} (h : kind.Spells cs)
    (hKind : kind.runsOn = false) :
    ∃ c rest, cs = c :: rest ∧ isWord c = false ∧ isDigit c = false := by
  cases kind with
  | keyword | identifier | number => cases hKind
  | string =>
    obtain ⟨quote, content, rfl, hQuote, -⟩ := h
    simp only [isQuote, Bool.or_eq_true, beq_iff_eq] at hQuote
    rcases hQuote with rfl | rfl <;> exact ⟨_, _, rfl, by decide⟩
  | comparison =>
    obtain ⟨comparison, rfl⟩ := h
    cases comparison <;> exact ⟨_, _, rfl, by decide⟩
  | symbol =>
    obtain ⟨symbol, rfl⟩ := h
    cases symbol <;> exact ⟨_, _, rfl, by decide⟩

theorem TokenKind.ends_append {kind next : TokenKind} {cs : List Char} (h : next.Spells cs)
    (hApart : kind.runsOn = false ∨ next.runsOn = false) (rest : List Char) :
    kind.Ends (cs ++ rest) := by
  rcases hApart with hKind | hNext
  · cases kind with
    | keyword | identifier | number => cases hKind
    | string | comparison | symbol => trivial
  · obtain ⟨c, others, rfl, hWord, hDigit⟩ := h.head_not_word hNext
    cases kind with
    | keyword | identifier => exact atWordEnd_head hWord
    | number =>
      intro first hFirst
      cases hFirst
      exact hDigit
    | string | comparison | symbol => trivial

theorem IsNumber.head_not_letter {cs : List Char} (h : IsNumber cs) :
    ∃ c rest, cs = c :: rest ∧ ∀ capital ∈ capitals, matchesCapital capital c = false := by
  have hNoLetters : ∀ c ∈ cs, ∀ capital ∈ capitals, matchesCapital capital c = false := by
    refine h.forall_mem ?_ fun c hDigit capital hCapital => ?_
    · exact fun _ hCapital => matchesCapital_eq_false_of_isWord_eq_false hCapital (by decide)
    · rw [Bool.eq_false_iff]
      intro hLetter
      rw [isDigit_eq_false_of_matchesCapital hCapital hLetter] at hDigit
      cases hDigit
  obtain ⟨first, rest, rfl⟩ := List.exists_cons_of_ne_nil h.ne_nil
  exact ⟨first, rest, rfl, hNoLetters first List.mem_cons_self⟩

/-- The letter at the front is an O. -/
theorem SpellsOrderBy.head_not_capital {cs : List Char} (h : SpellsOrderBy cs) {capital : Char}
    (hCapital : capital ∈ capitals) (hOther : capital ≠ 'O') :
    ∃ c rest, cs = c :: rest ∧ matchesCapital capital c = false := by
  obtain ⟨order, gap, last, rfl, hOrder, -⟩ := h
  have hName := (isName_of_order hOrder).all_isNameRest
  obtain ⟨c, rest, rfl, hUpper, -⟩ := List.map_eq_cons_iff.mp hOrder
  refine ⟨c, rest ++ (gap ++ last), rfl, ?_⟩
  rw [matchesCapital_of_isNameRest hCapital (hName c List.mem_cons_self), hUpper]
  simpa using hOther.symm

/-- BY is a word of its own, so it is spelled by the whole of what comes after the blanks. -/
theorem not_followedByBy {kind : TokenKind} {gap cs rest : List Char}
    (hGap : ∀ c ∈ gap, isBlank c = true) (h : kind.Spells cs) (hEnds : kind.Ends rest)
    (hText : cs.map Char.toUpper ≠ ['B', 'Y']) : ¬FollowedByBy (gap ++ (cs ++ rest)) := by
  have hDrop : (gap ++ (cs ++ rest)).dropWhile isBlank = cs ++ rest := by
    obtain ⟨c, others, rfl, hBlank⟩ := h.head_not_blank
    rw [List.dropWhile_append_of_pos hGap, List.cons_append,
      List.dropWhile_cons_of_neg (by simp [hBlank])]
  have hLetter : 'B' ∈ capitals := by simp [capitals]
  have hOther : ∀ {c : Char} {others : List Char}, matchesCapital 'B' c = false →
      wordLength? ['B', 'Y'] (c :: others) = none := by
    intro c others hMatches
    simp [wordLength?, startsWithWord, hMatches]
  have hNone : wordLength? ['B', 'Y'] (cs ++ rest) = none := by
    cases kind with
    | keyword =>
      rcases h with hWord | hOrderBy
      · rw [Shape.wordLength?_append (by simp [capitals]) hWord.isName.all_isNameRest hEnds,
          if_neg hText]
      · obtain ⟨c, others, rfl, hMatches⟩ := hOrderBy.head_not_capital hLetter (by decide)
        exact hOther hMatches
    | identifier =>
      rw [Shape.wordLength?_append (by simp [capitals]) h.1.all_isNameRest hEnds, if_neg hText]
    | number =>
      obtain ⟨c, others, rfl, hMatches⟩ := IsNumber.head_not_letter h
      exact hOther (hMatches 'B' hLetter)
    | string | comparison | symbol =>
      obtain ⟨c, others, rfl, hWord, -⟩ := h.head_not_word rfl
      exact hOther (matchesCapital_eq_false_of_isWord_eq_false hLetter hWord)
  simp [FollowedByBy, hDrop, hNone]

namespace Spelling

/-- The token and the blanks after it are written as its kind demands. -/
def Spelled (spelling : Spelling) : Prop :=
  spelling.kind.Spells spelling.text ∧ ∀ c ∈ spelling.gap, isBlank c = true

/-- Two neighbours that are not read as one: there are blanks between them, or one of them does not
run on; and they are not the two words of ORDER BY. -/
def Parted (left right : Spelling) : Prop :=
  (left.gap ≠ [] ∨ left.kind.runsOn = false ∨ right.kind.runsOn = false) ∧
    (left.text.map Char.toUpper = ['O', 'R', 'D', 'E', 'R'] →
      right.text.map Char.toUpper ≠ ['B', 'Y'])

theorem ends_of_gap {spelling : Spelling} (h : spelling.Spelled) (hGap : spelling.gap ≠ [])
    (rest : List Char) : spelling.kind.Ends (spelling.gap ++ rest) := by
  obtain ⟨c, gap, hGap⟩ := List.exists_cons_of_ne_nil hGap
  rw [hGap]
  exact TokenKind.ends_blank _ (h.2 c (by simp [hGap])) _

theorem Parted.ends {left right : Spelling} (h : Parted left right) (hLeft : left.Spelled)
    (hRight : right.Spelled) (rest : List Char) : left.kind.Ends (left.gap ++ (right.text ++ rest)) := by
  by_cases hGap : left.gap = []
  · rw [hGap, List.nil_append]
    exact TokenKind.ends_append hRight.1 (h.1.resolve_left (fun hNonempty => hNonempty hGap)) rest
  · exact ends_of_gap hLeft hGap _

/-- By induction on the written tokens: only the next neighbour decides where a token ends. -/
theorem separate_of_isChain {spellings : List Spelling}
    (hSpelled : ∀ spelling ∈ spellings, spelling.Spelled) (hChain : spellings.IsChain Parted) :
    Separate spellings := by
  induction spellings with
  | nil => trivial
  | cons left spellings ih =>
    have hLeft := hSpelled left List.mem_cons_self
    have hOthers := ih (fun other hOther => hSpelled other (List.mem_cons_of_mem _ hOther)) hChain.tail
    refine ⟨hLeft.1, hLeft.2, ?_, ?_, hOthers⟩
    · cases spellings with
      | nil =>
        by_cases hGap : left.gap = []
        · rw [hGap]
          exact TokenKind.ends_nil _
        · exact ends_of_gap hLeft hGap _
      | cons right spellings =>
        have hRight := hSpelled right (by simp)
        rw [List.flatMap_cons, chars, List.append_assoc]
        exact (List.isChain_cons_cons.mp hChain).1.ends hLeft hRight _
    · intro hOrder
      cases spellings with
      | nil =>
        have hDrop : left.gap.dropWhile isBlank = [] := List.dropWhile_eq_nil_iff.mpr hLeft.2
        simp [FollowedByBy, hDrop, wordLength?, startsWithWord]
      | cons right spellings =>
        have hRight := hSpelled right (by simp)
        rw [List.flatMap_cons, chars, List.append_assoc]
        exact not_followedByBy hLeft.2 hRight.1 hOthers.2.2.1
          ((List.isChain_cons_cons.mp hChain).1.2 hOrder)

end Spelling

/-- What a lexeme is read as, if it is a token. -/
def Lexeme.reading? (lexeme : Lexeme) : Option (TokenKind × String) :=
  (lexeme.token? .start).map Token.reading

theorem Lexeme.map_reading_token? (lexeme : Lexeme) (position : Position) :
    (lexeme.token? position).map Token.reading = lexeme.reading? := by
  obtain ⟨shape, text⟩ := lexeme
  cases shape with
  | none => rfl
  | some shape => cases shape <;> rfl

theorem map_snd_place (position : Position) (lexemes : List Lexeme) :
    (place position lexemes).map Prod.snd = lexemes := by
  induction lexemes generalizing position with
  | nil => rfl
  | cons lexeme lexemes ih => rw [place, List.map_cons, ih]

theorem map_reading_tokens (text : String) :
    (tokens text).map Token.reading = (segment text.toList).filterMap Lexeme.reading? := by
  have hReading : (fun entry : Position × Lexeme => (entry.2.token? entry.1).map Token.reading) =
      Lexeme.reading? ∘ Prod.snd := funext fun entry => entry.2.map_reading_token? entry.1
  rw [tokens, List.map_filterMap, hReading, ← List.filterMap_map, placedLexemes, map_snd_place]

namespace Spelling

theorem filterMap_reading?_lexemes (spelling : Spelling) :
    spelling.lexemes.filterMap Lexeme.reading? = [spelling.reading] := by
  obtain ⟨kind, text, gap⟩ := spelling
  cases gap <;> cases kind <;> rfl

theorem filterMap_reading?_of_separate {spellings : List Spelling} (h : Separate spellings) :
    (segment (spellings.flatMap chars)).filterMap Lexeme.reading? = spellings.map reading := by
  rw [segment_of_separate h]
  clear h
  induction spellings with
  | nil => rfl
  | cons spelling spellings ih =>
    rw [List.flatMap_cons, List.filterMap_append, filterMap_reading?_lexemes, ih]
    rfl

/-- Blanks before the first token are one lexeme of their own, and no token. -/
theorem tokens_of_separate_of_blanks {text : String} {front : List Char} {spellings : List Spelling}
    (hFront : ∀ c ∈ front, isBlank c = true) (h : Separate spellings)
    (hText : text.toList = front ++ spellings.flatMap chars) :
    (tokens text).map Token.reading = spellings.map reading := by
  rw [map_reading_tokens, hText, ← filterMap_reading?_of_separate h]
  by_cases hEmpty : front = []
  · rw [hEmpty, List.nil_append]
  · rw [segment_append (Shape.front?_blank hEmpty hFront h.head_not_blank)]
    rfl

theorem tokens_of_separate {text : String} {spellings : List Spelling} (h : Separate spellings)
    (hText : text.toList = spellings.flatMap chars) :
    (tokens text).map Token.reading = spellings.map reading :=
  tokens_of_separate_of_blanks (List.forall_mem_nil _) h hText

end Spelling

end TableStore
