import TableStore.Proofs.Text.Ascii

/-! # Classes of characters

Which characters can stand at the same place of a lexeme: blanks, digits, quotes and the letters of
reserved words have nothing in common, and only word characters match the letters of a reserved word.
-/

namespace TableStore

open Text

set_option autoImplicit false

theorem inRanges_eq_false_of_apart {left right : List CodeRange} {c : Char}
    (hApart : ∀ range ∈ left, ∀ other ∈ right, range.last < other.first ∨ other.last < range.first)
    (h : inRanges left c = true) : inRanges right c = false := by
  obtain ⟨range, hRange, hFirst, hLast⟩ := (inRanges_iff left c).mp h
  rw [Bool.eq_false_iff]
  intro hRight
  obtain ⟨other, hOther, hOtherFirst, hOtherLast⟩ := (inRanges_iff right c).mp hRight
  rcases hApart range hRange other hOther with hBefore | hAfter <;> omega

theorem forall_inRanges {ranges : List CodeRange} (law : Char → Prop)
    (h : ∀ range ∈ ranges, ∀ offset < range.last + 1 - range.first,
      law (Char.ofNat (range.first + offset)))
    {c : Char} (hRanges : inRanges ranges c = true) : law c := by
  obtain ⟨range, hRange, hFirst, hLast⟩ := (inRanges_iff ranges c).mp hRanges
  have hLaw := h range hRange (c.toNat - range.first) (by omega)
  rwa [Nat.add_sub_cancel' hFirst, Char.ofNat_toNat] at hLaw

theorem upperChar_of_isBlank {c : Char} (h : isBlank c = true) : upperChar c = [c] :=
  forall_inRanges (fun c => upperChar c = [c]) (by decide +kernel) h

theorem isWord_eq_false_of_isBlank {c : Char} (h : isBlank c = true) : isWord c = false := by
  rw [isWord]
  split
  · next hSmall =>
    exact forall_ascii (fun c => isBlank c = true → (c.isAlphanum || c == '_') = false) (by decide) c
      hSmall h
  · exact inRanges_eq_false_of_apart (by decide +kernel) h

theorem exists_zero_of_isDigit {c : Char} (h : isDigit c = true) :
    ∃ first ∈ zeros, first ≤ c.toNat ∧ c.toNat < first + 10 := by
  obtain ⟨value, hValue⟩ := Option.isSome_iff_exists.mp h
  obtain ⟨first, hFirst, -⟩ := Option.map_eq_some_iff.mp hValue
  have hBounds := List.find?_some hFirst
  simp only [Bool.and_eq_true, decide_eq_true_eq] at hBounds
  exact ⟨first, List.mem_of_find?_eq_some hFirst, hBounds⟩

theorem isBlank_eq_false_of_isDigit {c : Char} (h : isDigit c = true) : isBlank c = false := by
  obtain ⟨first, hFirst, hBounds⟩ := exists_zero_of_isDigit h
  rw [Bool.eq_false_iff]
  intro hBlank
  obtain ⟨range, hRange, hRangeBounds⟩ := (inRanges_iff _ c).mp hBlank
  have hApart : ∀ first ∈ zeros, ∀ range ∈ blankRanges,
      range.last < first ∨ first + 10 ≤ range.first := by decide
  rcases hApart first hFirst range hRange with hBefore | hAfter <;> omega

theorem isNameStart_eq_false_of_isDigit {c : Char} (h : isDigit c = true) : isNameStart c = false := by
  rw [Bool.eq_false_iff]
  intro hName
  have hSmall := toNat_lt_of_isNameRest (isNameRest_of_isNameStart hName)
  have hOther :=
    forall_ascii (fun c => isDigit c = true → isNameStart c = false) (by decide) c hSmall h
  rw [hName] at hOther
  cases hOther

theorem isQuote_of_isDigit {c : Char} (h : isDigit c) : isQuote c = false := by
  cases hQuote : isQuote c with
  | false => rfl
  | true =>
    simp only [isQuote, Bool.or_eq_true, beq_iff_eq] at hQuote
    rcases hQuote with rfl | rfl <;> exact absurd h (by decide)

theorem isBlank_eq_false_of_isNameRest {c : Char} (h : isNameRest c) : isBlank c = false :=
  forall_ascii (fun c => isNameRest c → isBlank c = false) (by decide) c (toNat_lt_of_isNameRest h) h

theorem isWord_of_isNameRest {c : Char} (h : isNameRest c) : isWord c = true := by
  simp only [isNameRest, Bool.or_eq_true, beq_iff_eq] at h
  rcases h with hAlphanum | rfl
  · exact isWord_of_isAlphanum hAlphanum
  · decide

theorem IsName.isBlank_eq_false {cs : List Char} (h : IsName cs) : ∀ c ∈ cs, isBlank c = false :=
  fun c hc => isBlank_eq_false_of_isNameRest (h.all_isNameRest c hc)

theorem IsNumber.isBlank_eq_false {cs : List Char} (h : IsNumber cs) : ∀ c ∈ cs, isBlank c = false :=
  h.forall_mem (by decide) fun _ hDigit => isBlank_eq_false_of_isDigit hDigit

theorem IsName.head_not_blank {cs : List Char} (h : IsName cs) :
    ∃ c rest, cs = c :: rest ∧ isBlank c = false := by
  obtain ⟨first, rest, rfl, hFirst, -⟩ := h
  exact ⟨first, rest, rfl, isBlank_eq_false_of_isNameRest (isNameRest_of_isNameStart hFirst)⟩

theorem IsNumber.head_not_blank {cs : List Char} (h : IsNumber cs) :
    ∃ c rest, cs = c :: rest ∧ isBlank c = false := by
  obtain ⟨first, rest, rfl⟩ := List.exists_cons_of_ne_nil h.ne_nil
  exact ⟨first, rest, rfl, h.isBlank_eq_false first List.mem_cons_self⟩

theorem isBlank_eq_false_of_isQuote {c : Char} (h : isQuote c = true) : isBlank c = false := by
  simp only [isQuote, Bool.or_eq_true, beq_iff_eq] at h
  rcases h with rfl | rfl <;> decide

/-- The letters of the reserved words, and the underscore. -/
def capitals : List Char :=
  ['A', 'B', 'C', 'D', 'E', 'F', 'G', 'H', 'I', 'J', 'K', 'L', 'M', 'N', 'O', 'P', 'Q', 'R', 'S', 'T',
    'U', 'V', 'W', 'X', 'Y', 'Z', '_']

theorem Keyword.word_capitals (keyword : Keyword) : ∀ c ∈ keyword.word.toList, c ∈ capitals := by
  have hAll : keyword.word.toList.all (capitals.contains ·) = true := by cases keyword <;> decide
  intro c hc
  simpa using List.all_eq_true.mp hAll c hc

theorem matchesCapital_eq_true_iff {capital c : Char} :
    matchesCapital capital c = true ↔ c = capital ∨ c = capital.toLower ∨
      (capital = 'I' ∧ (c = 'İ' ∨ c = 'ı')) ∨ (capital = 'S' ∧ c = 'ſ') := by
  simp [matchesCapital, or_assoc]

/-- By the four ways in which a character may match. -/
theorem matchesCapital_induction (law : Char → Bool) {capital c : Char}
    (hCapital : capital ∈ capitals) (h : matchesCapital capital c = true)
    (hLaw : (capitals.all fun capital => law capital && law capital.toLower) = true)
    (hOthers : (law 'İ' && law 'ı' && law 'ſ') = true) : law c = true := by
  have hCases := List.all_eq_true.mp hLaw capital hCapital
  simp only [Bool.and_eq_true] at hCases hOthers
  rcases matchesCapital_eq_true_iff.mp h with rfl | rfl | ⟨-, rfl | rfl⟩ | ⟨-, rfl⟩
  · exact hCases.1
  · exact hCases.2
  · exact hOthers.1.1
  · exact hOthers.1.2
  · exact hOthers.2

theorem isWord_of_matchesCapital {capital c : Char} (hCapital : capital ∈ capitals)
    (h : matchesCapital capital c = true) : isWord c = true :=
  matchesCapital_induction isWord hCapital h (by decide) (by decide)

theorem matchesCapital_eq_false_of_isWord_eq_false {capital c : Char} (hCapital : capital ∈ capitals)
    (h : isWord c = false) : matchesCapital capital c = false := by
  rw [Bool.eq_false_iff]
  intro hMatches
  rw [isWord_of_matchesCapital hCapital hMatches] at h
  cases h

theorem isDigit_eq_false_of_matchesCapital {capital c : Char} (hCapital : capital ∈ capitals)
    (h : matchesCapital capital c = true) : isDigit c = false := by
  simpa using matchesCapital_induction (!isDigit ·) hCapital h (by decide) (by decide)

theorem matchesCapital_of_isNameRest {capital c : Char} (hCapital : capital ∈ capitals)
    (h : isNameRest c) : matchesCapital capital c = (c.toUpper == capital) := by
  have hAll := forall_ascii
    (fun c => isNameRest c → (capitals.all fun capital =>
      matchesCapital capital c == (c.toUpper == capital)) = true)
    (by decide +kernel) c (toNat_lt_of_isNameRest h) h
  exact eq_of_beq (List.all_eq_true.mp hAll capital hCapital)

end TableStore
