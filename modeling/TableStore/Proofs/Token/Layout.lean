import TableStore.Proofs.Token.Spelling

/-! # Layouts

A list of kinds and values can be laid out as a text in many ways: the case of a keyword is free, the
two words of ORDER BY may stand apart, and so are the blanks between neighbours, before the first and
after the last. Each of these texts is read as the list it was laid out from.
-/

namespace TableStore

open Text

set_option autoImplicit false

theorem joinBlanks_append {cs : List Char} (h : ∀ c ∈ cs, isBlank c = false) (rest : List Char) :
    joinBlanks (cs ++ rest) = cs ++ joinBlanks rest := by
  induction cs with
  | nil => rfl
  | cons c cs ih =>
    rw [List.cons_append, joinBlanks, h c List.mem_cons_self,
      ih fun other hOther => h other (List.mem_cons_of_mem _ hOther)]
    rfl

/-- By induction on the run: only its last blank leaves an underscore. -/
theorem joinBlanks_gap {gap rest : List Char} (hNonempty : gap ≠ [])
    (hGap : ∀ c ∈ gap, isBlank c = true) (hRest : ∀ c, rest.head? = some c → isBlank c = false) :
    joinBlanks (gap ++ rest) = '_' :: joinBlanks rest := by
  induction gap with
  | nil => exact absurd rfl hNonempty
  | cons c gap ih =>
    rw [List.cons_append, joinBlanks, if_pos (hGap c List.mem_cons_self)]
    cases gap with
    | nil =>
      have hLast : rest.head?.any isBlank = false := by
        cases hHead : rest.head? with
        | none => rfl
        | some first => exact hRest first hHead
      rw [List.nil_append, hLast]
      rfl
    | cons next gap =>
      have hNext : ((next :: gap) ++ rest).head?.any isBlank = true := hGap next (by simp)
      rw [if_pos hNext]
      exact ih (List.cons_ne_nil _ _) fun other hOther => hGap other (List.mem_cons_of_mem _ hOther)

theorem IsName.flatMap_upperChar {cs : List Char} (h : IsName cs) :
    cs.flatMap upperChar = cs.map Char.toUpper :=
  TableStore.flatMap_upperChar fun c hc => toNat_lt_of_isNameRest (h.all_isNameRest c hc)

theorem keywordValue_of_upper {keyword : Keyword} {cs : List Char}
    (h : cs.flatMap upperChar = keyword.word.toList) : keywordValue cs = keyword.word := by
  rw [keywordValue, h]
  cases keyword <;> decide

theorem keywordValue_of_capitals {keyword : Keyword} {cs : List Char}
    (h : cs.map Char.toUpper = keyword.word.toList) : keywordValue cs = keyword.word := by
  have hName : IsName cs := SpellsKeyword.isName ⟨keyword, h⟩
  exact keywordValue_of_upper (hName.flatMap_upperChar.trans h)

theorem keywordValue_of_halves {order gap last : List Char}
    (hOrder : order.flatMap upperChar = ['O', 'R', 'D', 'E', 'R']) (hNonempty : gap ≠ [])
    (hGap : ∀ c ∈ gap, isBlank c = true) (hBy : last.flatMap upperChar = ['B', 'Y']) :
    keywordValue (order ++ (gap ++ last)) = Keyword.orderBy.word := by
  have hUpper : gap.flatMap upperChar = gap := by
    rw [List.flatMap_congr fun c hc => upperChar_of_isBlank (hGap c hc), List.flatMap_singleton']
  have hJoined : joinBlanks (gap ++ ['B', 'Y']) = '_' :: joinBlanks ['B', 'Y'] := by
    apply joinBlanks_gap hNonempty hGap
    intro c hHead
    cases hHead
    decide
  have hCapitals : IsName ['O', 'R', 'D', 'E', 'R'] := isName_of_order (by decide)
  rw [keywordValue, List.flatMap_append, List.flatMap_append, hUpper, hOrder, hBy,
    joinBlanks_append hCapitals.isBlank_eq_false, hJoined]
  decide

theorem keywordValue_of_orderBy {cs : List Char} (h : SpellsOrderBy cs) :
    keywordValue cs = Keyword.orderBy.word := by
  obtain ⟨order, gap, last, rfl, hOrder, hNonempty, hGap, hBy⟩ := h
  exact keywordValue_of_halves ((isName_of_order hOrder).flatMap_upperChar.trans hOrder) hNonempty hGap
    ((isName_of_by hBy).flatMap_upperChar.trans hBy)

namespace TokenKind

/-- The values that tokens of the kind have. -/
def Allows : TokenKind → String → Prop
  | keyword, value => ∃ keyword : Keyword, value = keyword.word
  | identifier, value => IsName value.toList ∧ ¬SpellsKeyword value.toList
  | string, value => IsQuoted value.toList
  | number, value => IsNumber value.toList
  | comparison, value => ∃ comparison : Comparison, value = comparison.text
  | symbol, value => ∃ symbol : Symbol, value = symbol.text

/-- The texts that stand for a value. Only a keyword has more than one. -/
def Renders : TokenKind → String → List Char → Prop
  | keyword, value, cs =>
    cs.map Char.toUpper = value.toList ∨ (value = Keyword.orderBy.word ∧ SpellsOrderBy cs)
  | _, value, cs => cs = value.toList

variable {kind : TokenKind} {value : String} {cs : List Char}

theorem Renders.spells (h : kind.Renders value cs) (hAllows : kind.Allows value) : kind.Spells cs := by
  cases kind with
  | keyword =>
    obtain ⟨keyword, rfl⟩ := hAllows
    rcases h with hWord | ⟨-, hOrderBy⟩
    · exact .inl ⟨keyword, hWord⟩
    · exact .inr hOrderBy
  | identifier | string | number =>
    cases h
    exact hAllows
  | comparison =>
    cases h
    obtain ⟨comparison, rfl⟩ := hAllows
    exact ⟨comparison, rfl⟩
  | symbol =>
    cases h
    obtain ⟨symbol, rfl⟩ := hAllows
    exact ⟨symbol, rfl⟩

theorem Renders.value_eq (h : kind.Renders value cs) (hAllows : kind.Allows value) :
    kind.value cs = value := by
  cases kind with
  | keyword =>
    obtain ⟨keyword, rfl⟩ := hAllows
    rcases h with hWord | ⟨hValue, hOrderBy⟩
    · exact keywordValue_of_capitals hWord
    · rw [hValue]
      exact keywordValue_of_orderBy hOrderBy
  | identifier | string | number | comparison | symbol =>
    cases h
    exact String.ofList_toList

/-- Each other kind starts with a character of its own, or it is a reserved word, or it has blanks. -/
theorem Spells.kind_eq_identifier (h : kind.Spells cs) (hName : IsName cs) (hFree : ¬SpellsKeyword cs) :
    kind = .identifier := by
  have hChars := hName.all_isNameRest
  cases kind with
  | identifier => rfl
  | keyword =>
    rcases h with hWord | ⟨order, gap, last, rfl, -, hNonempty, hGap, -⟩
    · exact absurd hWord hFree
    · obtain ⟨c, others, rfl⟩ := List.exists_cons_of_ne_nil hNonempty
      have hBlank := isBlank_eq_false_of_isNameRest (hChars c (by simp))
      rw [hGap c List.mem_cons_self] at hBlank
      cases hBlank
  | number =>
    obtain ⟨first, others, rfl, hFirst, -⟩ := hName
    have hNot : isNameStart first = false :=
      IsNumber.forall_mem h (by decide) (fun _ hDigit => isNameStart_eq_false_of_isDigit hDigit) first
        List.mem_cons_self
    rw [hFirst] at hNot
    cases hNot
  | string | comparison | symbol =>
    obtain ⟨c, others, rfl, hWord, -⟩ := h.head_not_word rfl
    rw [isWord_of_isNameRest (hChars c List.mem_cons_self)] at hWord
    cases hWord

end TokenKind

/-- Two names that would be read as the one keyword ORDER BY. -/
def FormOrderBy (left right : TokenKind × String) : Prop :=
  left.1 = .identifier ∧ left.2.toList.map Char.toUpper = ['O', 'R', 'D', 'E', 'R'] ∧
    right.1 = .identifier ∧ right.2.toList.map Char.toUpper = ['B', 'Y']

/-- The lists of kinds and values that can be laid out. -/
structure Writable (readings : List (TokenKind × String)) : Prop where
  allows : ∀ reading ∈ readings, reading.1.Allows reading.2
  apart : readings.IsChain fun left right => ¬FormOrderBy left right

/-- The text shows one token after another, each with blanks after it. The blanks may be missing where
one of the two neighbours does not run on. -/
inductive Layout : List (TokenKind × String) → List Char → Prop
  | nil : Layout [] []
  | cons {kind : TokenKind} {value : String} {readings : List (TokenKind × String)}
      {cs gap rest : List Char} (renders : kind.Renders value cs) (blanks : ∀ c ∈ gap, isBlank c = true)
      (parted : ∀ next ∈ readings.head?, gap ≠ [] ∨ kind.runsOn = false ∨ next.1.runsOn = false)
      (layout : Layout readings rest) : Layout ((kind, value) :: readings) (cs ++ (gap ++ rest))

namespace Layout

open Spelling

/-- Only names are spelled ORDER and BY, and they are no neighbours. -/
theorem parted_of_not_formOrderBy {left right : Spelling} (hLeft : left.kind.Spells left.text)
    (hRight : right.kind.Spells right.text)
    (hGap : left.gap ≠ [] ∨ left.kind.runsOn = false ∨ right.kind.runsOn = false)
    (hApart : ¬FormOrderBy left.reading right.reading) : Parted left right := by
  refine ⟨hGap, fun hOrder hBy => hApart ?_⟩
  have hLeftKind := hLeft.kind_eq_identifier (isName_of_order hOrder) (not_spellsKeyword_of_order hOrder)
  have hRightKind := hRight.kind_eq_identifier (isName_of_by hBy) (not_spellsKeyword_of_by hBy)
  refine ⟨hLeftKind, ?_, hRightKind, ?_⟩
  · rw [reading, hLeftKind, TokenKind.value_of_ne_keyword (by decide), String.toList_ofList, hOrder]
  · rw [reading, hRightKind, TokenKind.value_of_ne_keyword (by decide), String.toList_ofList, hBy]

/-- By induction on the layout: each token with its blanks is one spelling. -/
theorem exists_spellings {readings : List (TokenKind × String)} {body : List Char}
    (h : Layout readings body) (hWritable : Writable readings) :
    ∃ spellings : List Spelling, body = spellings.flatMap chars ∧ spellings.map reading = readings ∧
      (∀ spelling ∈ spellings, spelling.Spelled) ∧ spellings.IsChain Parted := by
  induction h with
  | nil => exact ⟨[], rfl, rfl, List.forall_mem_nil _, .nil⟩
  | @cons kind value readings cs gap rest renders blanks parted layout ih =>
    have hAllows : kind.Allows value := hWritable.allows _ List.mem_cons_self
    obtain ⟨hApart, hChain⟩ := List.isChain_cons.mp hWritable.apart
    obtain ⟨spellings, rfl, rfl, hSpelled, hParted⟩ :=
      ih ⟨fun other hOther => hWritable.allows other (List.mem_cons_of_mem _ hOther), hChain⟩
    have hFirst : (⟨kind, cs, gap⟩ : Spelling).Spelled := ⟨renders.spells hAllows, blanks⟩
    have hReading : (⟨kind, cs, gap⟩ : Spelling).reading = (kind, value) :=
      congrArg (Prod.mk kind) (renders.value_eq hAllows)
    refine ⟨⟨kind, cs, gap⟩ :: spellings, ?_, ?_, ?_, ?_⟩
    · rw [List.flatMap_cons, chars, List.append_assoc]
    · rw [List.map_cons, hReading]
    · exact List.forall_mem_cons.mpr ⟨hFirst, hSpelled⟩
    · refine List.isChain_cons.mpr ⟨fun next hNext => ?_, hParted⟩
      have hMember : next ∈ spellings := List.mem_of_mem_head? hNext
      have hNextReading : next.reading ∈ (spellings.map reading).head? := by
        rw [List.head?_map]
        exact Option.mem_map_of_mem reading hNext
      apply parted_of_not_formOrderBy hFirst.1 (hSpelled next hMember).1 (parted _ hNextReading)
      rw [hReading]
      exact hApart _ hNextReading

end Layout

/-- Reading takes back every layout, whatever its blanks and the case of its keywords. -/
theorem reading_inverts_layout {readings : List (TokenKind × String)} (hWritable : Writable readings)
    {front body : List Char} (hFront : ∀ c ∈ front, isBlank c = true) (hLayout : Layout readings body)
    {text : String} (hText : text.toList = front ++ body) :
    (tokens text).map Token.reading = readings := by
  obtain ⟨spellings, rfl, rfl, hSpelled, hParted⟩ := hLayout.exists_spellings hWritable
  exact Spelling.tokens_of_separate_of_blanks hFront (Spelling.separate_of_isChain hSpelled hParted) hText

/-- Tokens of all kinds: a name that is half of a keyword, a quoted text that looks like other tokens. -/
def mixedReadings : List (TokenKind × String) :=
  [(.keyword, "SELECT"), (.symbol, "*"), (.keyword, "FROM"), (.identifier, "order"), (.keyword, "WHERE"),
    (.string, "'by \"< 1'"), (.comparison, ">"), (.number, "-٣"), (.keyword, "ORDER_BY"),
    (.identifier, "by")]

theorem writable_mixedReadings : Writable mixedReadings where
  allows := by
    have hOrder : IsName "order".toList := ⟨_, _, rfl, by decide, List.all_eq_true.mp (by decide)⟩
    have hBy : IsName "by".toList := ⟨_, _, rfl, by decide, List.all_eq_true.mp (by decide)⟩
    have hQuoted : IsQuoted "'by \"< 1'".toList := ⟨_, "by \"< 1".toList, rfl, by decide, by decide⟩
    have hNumber : IsNumber "-٣".toList :=
      ⟨['٣'], by decide, List.all_eq_true.mp (by decide), .inr rfl⟩
    simp only [mixedReadings, List.forall_mem_cons]
    exact ⟨⟨.select, rfl⟩, ⟨.star, rfl⟩, ⟨.fromTable, rfl⟩, ⟨hOrder, by decide⟩, ⟨.whereClause, rfl⟩,
      hQuoted, ⟨.greater, rfl⟩, hNumber, ⟨.orderBy, rfl⟩, ⟨hBy, by decide⟩, List.forall_mem_nil _⟩
  apart := by simp [mixedReadings, FormOrderBy]

/-- Line separators, ideographic spaces and tabs for blanks, and no blanks where none are needed. -/
theorem layout_mixedReadings : Layout mixedReadings
    ("sElEcT".toList ++ ([] ++ ("*".toList ++ ([] ++ ("fRoM".toList ++ (['\u2028'] ++ ("order".toList ++
      ([' '] ++ ("where".toList ++ ([] ++ ("'by \"< 1'".toList ++ ([] ++ (">".toList ++ ([] ++
        ("-٣".toList ++ ([' '] ++ ("oRdEr\u3000\tbY".toList ++ (['\n'] ++ ("by".toList ++
          ([' '] ++ [])))))))))))))))))))) := by
  have hOrderBy : SpellsOrderBy "oRdEr\u3000\tbY".toList :=
    ⟨"oRdEr".toList, ['\u3000', '\t'], "bY".toList, by decide, by decide, by decide,
      List.all_eq_true.mp (by decide), by decide⟩
  refine .cons (.inl (by decide)) (List.all_eq_true.mp (by decide)) ?_ ?_
  · simp [TokenKind.runsOn]
  refine .cons rfl (List.all_eq_true.mp (by decide)) ?_ ?_
  · simp [TokenKind.runsOn]
  refine .cons (.inl (by decide)) (List.all_eq_true.mp (by decide)) ?_ ?_
  · simp
  refine .cons rfl (List.all_eq_true.mp (by decide)) ?_ ?_
  · simp
  refine .cons (.inl (by decide)) (List.all_eq_true.mp (by decide)) ?_ ?_
  · simp [TokenKind.runsOn]
  refine .cons rfl (List.all_eq_true.mp (by decide)) ?_ ?_
  · simp [TokenKind.runsOn]
  refine .cons rfl (List.all_eq_true.mp (by decide)) ?_ ?_
  · simp [TokenKind.runsOn]
  refine .cons rfl (List.all_eq_true.mp (by decide)) ?_ ?_
  · simp
  refine .cons (.inr ⟨rfl, hOrderBy⟩) (List.all_eq_true.mp (by decide)) ?_ ?_
  · simp
  exact .cons rfl (List.all_eq_true.mp (by decide)) (by simp) .nil

theorem reading_of_mixed_layout :
    Writable mixedReadings ∧
      (tokens "\u3000sElEcT*fRoM\u2028order where'by \"< 1'>-٣ oRdEr\u3000\tbY\nby ").map Token.reading =
        mixedReadings := by
  have hFront : ∀ c ∈ ['\u3000'], isBlank c = true := List.all_eq_true.mp (by decide)
  exact ⟨writable_mixedReadings,
    reading_inverts_layout writable_mixedReadings hFront layout_mixedReadings (by decide)⟩

end TableStore
