import TableStore.Proofs.Statement.PhraseReader
import TableStore.Proofs.Token.Layout
import TableStore.Proofs.Token.Spans

/-! # Keywords in any case

A keyword is read letter by letter, whatever its case, and its value is the upper case of what was read.
Every letter that may stand for a capital has that capital as its upper case, but for one: the dotted I
is a capital already, and it stays. So a keyword token has its word for a value and is recognized by it,
unless it is written with a dotted I. Then its value is no word, and it is not recognized at all.
-/

namespace TableStore

open Text

set_option autoImplicit false

/-- The letters of the text are those of the word, when case is ignored. -/
def StandsFor (word cs : List Char) : Prop :=
  List.Forall₂ (fun capital c => matchesCapital capital c = true) word cs

namespace Keyword

/-- The text is read as the keyword. -/
inductive ReadFrom : Keyword → List Char → Prop
  | word {keyword : Keyword} {cs : List Char} :
      StandsFor keyword.word.toList cs → ReadFrom keyword cs
  | twoWords {order gap last : List Char} :
      StandsFor ['O', 'R', 'D', 'E', 'R'] order → gap ≠ [] → (∀ c ∈ gap, isBlank c = true) →
      StandsFor ['B', 'Y'] last → ReadFrom orderBy (order ++ (gap ++ last))

/-- The form that a keyword announces. -/
def form? : Keyword → Option Statement.Form
  | create => some .create
  | insert => some .insert
  | select => some .select
  | _ => none

theorem dotted_not_mem_word (keyword : Keyword) : 'İ' ∉ keyword.word.toList := by
  cases keyword <;> decide

end Keyword

theorem standsFor_take {word cs : List Char} (h : startsWithWord word cs = true) :
    StandsFor word (cs.take word.length) := by
  induction word generalizing cs with
  | nil => exact .nil
  | cons capital word ih =>
    cases cs with
    | nil => cases h
    | cons c cs =>
      simp only [startsWithWord, Bool.and_eq_true] at h
      exact .cons h.1 (ih h.2)

theorem upperChar_of_matchesCapital {capital c : Char} (hCapital : capital ∈ capitals)
    (h : matchesCapital capital c = true) (hDot : c ≠ 'İ') : upperChar c = [capital] := by
  have hPlain : (capitals.all fun capital =>
      upperChar capital == [capital] && upperChar capital.toLower == [capital]) = true := by decide
  simp only [List.all_eq_true, Bool.and_eq_true, beq_iff_eq] at hPlain
  rcases matchesCapital_eq_true_iff.mp h with rfl | rfl | ⟨rfl, rfl | rfl⟩ | ⟨rfl, rfl⟩
  · exact (hPlain c hCapital).1
  · exact (hPlain capital hCapital).2
  · exact absurd rfl hDot
  · decide +kernel
  · decide +kernel

/-- Letter by letter, along the word. -/
theorem StandsFor.flatMap_upperChar {word cs : List Char} (h : StandsFor word cs)
    (hWord : ∀ c ∈ word, c ∈ capitals) (hDot : 'İ' ∉ cs) : cs.flatMap upperChar = word := by
  rw [StandsFor] at h
  induction h with
  | nil => rfl
  | @cons capital c word cs hMatches hRest ih =>
    obtain ⟨hCapital, hOthers⟩ := List.forall_mem_cons.mp hWord
    have hFirst : c ≠ 'İ' := fun hSame => hDot (by simp [hSame])
    have hLater : 'İ' ∉ cs := fun hMember => hDot (List.mem_cons_of_mem _ hMember)
    rw [List.flatMap_cons, upperChar_of_matchesCapital hCapital hMatches hFirst, ih hOthers hLater,
      List.singleton_append]

theorem mem_joinBlanks {cs : List Char} {c : Char} (h : c ∈ cs) (hBlank : isBlank c = false) :
    c ∈ joinBlanks cs := by
  induction cs with
  | nil => cases h
  | cons first cs ih =>
    rw [joinBlanks]
    rcases List.mem_cons.mp h with rfl | hLater
    · simp [hBlank]
    · split
      · split
        · exact ih hLater
        · exact List.mem_cons_of_mem _ (ih hLater)
      · exact List.mem_cons_of_mem _ (ih hLater)

/-- The dotted I has no other upper case. -/
theorem dotted_mem_keywordValue {cs : List Char} (h : 'İ' ∈ cs) : 'İ' ∈ (keywordValue cs).toList := by
  have hUpper : upperChar 'İ' = ['İ'] := by decide +kernel
  rw [keywordValue, String.toList_ofList]
  apply mem_joinBlanks _ (by decide)
  exact List.mem_flatMap.mpr ⟨'İ', h, by rw [hUpper]; exact List.mem_singleton.mpr rfl⟩

namespace Keyword

variable {keyword : Keyword} {cs : List Char}

theorem ReadFrom.keywordValue_eq (h : keyword.ReadFrom cs) (hDot : 'İ' ∉ cs) :
    keywordValue cs = keyword.word := by
  cases h with
  | word hLetters => exact keywordValue_of_upper (hLetters.flatMap_upperChar keyword.word_capitals hDot)
  | twoWords hOrder hNonempty hGap hBy =>
    simp only [List.mem_append, not_or] at hDot
    obtain ⟨hOrderDot, -, hByDot⟩ := hDot
    exact keywordValue_of_halves (hOrder.flatMap_upperChar (by simp [capitals]) hOrderDot) hNonempty hGap
      (hBy.flatMap_upperChar (by simp [capitals]) hByDot)

/-- With a dotted I the value has one as well, and no word has. -/
theorem ReadFrom.exists_keywordValue_eq_iff (h : keyword.ReadFrom cs) :
    (∃ word : Keyword, keywordValue cs = word.word) ↔ 'İ' ∉ cs := by
  constructor
  · rintro ⟨word, hWord⟩ hDot
    have hMember := dotted_mem_keywordValue hDot
    rw [hWord] at hMember
    exact word.dotted_not_mem_word hMember
  · exact fun hDot => ⟨keyword, h.keywordValue_eq hDot⟩

end Keyword

namespace Shape

variable {cs : List Char} {length : Nat}

theorem standsFor_of_wordLength? {word : List Char} (h : wordLength? word cs = some length) :
    StandsFor word (cs.take length) := by
  rw [wordLength?] at h
  split at h
  · next hFits =>
    cases h
    exact standsFor_take (Bool.and_eq_true_iff.mp hFits).1
  · cases h

theorem readFrom_of_orderByLength? (h : orderByLength? cs = some length) :
    Keyword.orderBy.ReadFrom (cs.take length) := by
  rw [orderByLength?] at h
  split at h
  · next hStarts =>
    obtain ⟨gap, hGap, hRest⟩ := Option.bind_eq_some_iff.mp h
    obtain ⟨rest, hBy, hLength⟩ := Option.bind_eq_some_iff.mp hRest
    cases hLength
    have hOrder : StandsFor ['O', 'R', 'D', 'E', 'R'] (cs.take 5) := standsFor_take hStarts
    obtain ⟨hNonempty, hBlanks⟩ := take_of_runLength? hGap
    rw [List.take_add, List.take_add, List.append_assoc]
    exact .twoWords hOrder hNonempty hBlanks (standsFor_of_wordLength? hBy)
  · cases h

/-- What is taken off the front as a keyword is read as one of them. -/
theorem exists_readFrom (h : keywordLength? cs = some length) :
    ∃ keyword : Keyword, keyword.ReadFrom (cs.take length) := by
  rw [keywordLength?, Option.or_eq_some_iff] at h
  rcases h with hOrderBy | ⟨-, hWord⟩
  · exact ⟨.orderBy, readFrom_of_orderByLength? hOrderBy⟩
  · obtain ⟨keyword, -, hLength⟩ := List.exists_of_findSome?_eq_some hWord
    exact ⟨keyword, .word (standsFor_of_wordLength? hLength)⟩

end Shape

/-- Only one text is the other with its runs of blanks joined. -/
theorem JoinsBlanks.eq_joinBlanks {cs value : List Char} (h : JoinsBlanks cs value) :
    value = joinBlanks cs := by
  induction h with
  | nil => rfl
  | char hLetter hRest ih => rw [joinBlanks, hLetter, ih]; rfl
  | @run gap cs value hNonempty hBlanks hLongest hRest ih =>
    rw [ih, joinBlanks_gap hNonempty hBlanks]
    intro c hHead
    rwa [hHead, Option.any_some] at hLongest

namespace Token

variable {token : Token} {cs : List Char} {span : Span}

theorem Shows.value_eq_keywordValue (h : token.Shows cs span) (hKind : token.kind = .keyword) :
    token.value = keywordValue (span.chars cs) := by
  rw [keywordValue, ← (h.word hKind).eq_joinBlanks, String.ofList_toList]

theorem Shows.exists_readFrom (h : token.Shows cs span) (hKind : token.kind = .keyword) :
    ∃ keyword : Keyword, keyword.ReadFrom (span.chars cs) := by
  have hShape := h.shape
  rw [hKind] at hShape
  exact Shape.exists_readFrom (Shape.length?_of_front? hShape)

theorem isKeyword_iff_of_kind (hKind : token.kind = .keyword) (keyword : Keyword) :
    token.isKeyword keyword ↔ token.value = keyword.word := by
  simp [isKeyword, hKind]

theorem form?_of_isKeyword {keyword : Keyword} (h : token.isKeyword keyword) :
    Statement.form? token = keyword.form? := by
  simp only [Statement.form?, isKeyword_of_isKeyword h]
  cases keyword <;> rfl

theorem form?_of_forall_not_isKeyword (h : ∀ keyword, token.isKeyword keyword = false) :
    Statement.form? token = none := by
  simp [Statement.form?, h]

end Token

theorem exists_shows_of_mem_tokens {text : String} {token : Token} (h : token ∈ tokens text) :
    ∃ span, token.Shows text.toList span := by
  obtain ⟨entries, hCut, hTokens⟩ := exists_cut_tokens text
  rw [hTokens] at h
  obtain ⟨shown, hShown, rfl⟩ := List.mem_map.mp h
  exact ⟨shown.1, hCut.shows shown hShown⟩

/-- A keyword token has one of the words for its value exactly if it is not written with a dotted I. Then
the keyword that its text is read as is recognized in it and no other, and it announces the form of that
keyword; else no keyword is recognized in it, and it announces no form. -/
theorem undotted_keywords_are_canonical {text : String} {token : Token} (h : token ∈ tokens text)
    (hKind : token.kind = .keyword) :
    ∃ (span : Span) (keyword : Keyword), token.Shows text.toList span ∧
      keyword.ReadFrom (span.chars text.toList) ∧
      ((∃ word : Keyword, token.value = word.word) ↔ 'İ' ∉ span.chars text.toList) ∧
      (∀ word, token.isKeyword word ↔ word = keyword ∧ 'İ' ∉ span.chars text.toList) ∧
      Statement.form? token = if 'İ' ∈ span.chars text.toList then none else keyword.form? := by
  obtain ⟨span, hShows⟩ := exists_shows_of_mem_tokens h
  obtain ⟨keyword, hRead⟩ := hShows.exists_readFrom hKind
  have hValue := hShows.value_eq_keywordValue hKind
  have hWords := hRead.exists_keywordValue_eq_iff
  rw [← hValue] at hWords
  refine ⟨span, keyword, hShows, hRead, hWords, ?_⟩
  by_cases hDot : 'İ' ∈ span.chars text.toList
  · have hNone : ∀ word, token.isKeyword word = false := by
      intro word
      rw [Bool.eq_false_iff]
      intro hWord
      exact hWords.mp ⟨word, (token.isKeyword_iff_of_kind hKind word).mp hWord⟩ hDot
    rw [if_pos hDot]
    exact ⟨fun word => by simp [hNone, hDot], Token.form?_of_forall_not_isKeyword hNone⟩
  · have hKeyword : token.isKeyword keyword := by
      rw [Token.isKeyword_iff_of_kind hKind, hValue, hRead.keywordValue_eq hDot]
    rw [if_neg hDot]
    refine ⟨fun word => ?_, Token.form?_of_isKeyword hKeyword⟩
    simp [Token.isKeyword_of_isKeyword hKeyword, hDot, eq_comm]

/-- The dotless I and the long S are letters of a keyword as well. -/
theorem undotted_keyword_of_small_letters :
    ∃ token ∈ tokens "ınſert into", token.kind = .keyword ∧ token.isKeyword .insert ∧
      Statement.form? token = some .insert := by
  have hToken : ⟨.keyword, "INSERT", .start⟩ ∈ tokens "ınſert into" := by decide +kernel
  obtain ⟨span, keyword, hShows, hRead, hWords, hKeyword, hForm⟩ :=
    undotted_keywords_are_canonical hToken rfl
  have hDot := hWords.mp ⟨.insert, rfl⟩
  have hInsert : (⟨.keyword, "INSERT", .start⟩ : Token).isKeyword .insert := by decide
  obtain ⟨rfl, -⟩ := (hKeyword .insert).mp hInsert
  rw [if_neg hDot] at hForm
  exact ⟨_, hToken, rfl, hInsert, hForm⟩

theorem dotted_keyword_has_no_word :
    ¬∀ (text : String) (token : Token), token ∈ tokens text → token.kind = .keyword →
      ∃ keyword : Keyword, token.value = keyword.word := by
  intro hEvery
  obtain ⟨keyword, hValue⟩ := hEvery "İNTO" ⟨.keyword, "İNTO", .start⟩ (by decide +kernel) rfl
  exact keyword.dotted_not_mem_word (by rw [← hValue]; decide)

end TableStore
