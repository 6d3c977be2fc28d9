import TableStore.Text.Blank

/-! # Pieces between blanks

A blank separates the pieces before it from the pieces after it. A word without a blank is one piece,
and a character that is not blank starts the first piece of what it starts. A text has the same pieces
without the blanks at its ends.
-/

namespace TableStore.Text

set_option autoImplicit false

theorem pieceChars_of_blank {c : Char} (h : isBlank c = true) (cs : List Char) :
    pieceChars (c :: cs) = pieceChars cs := by
  rw [pieceChars.eq_def]
  exact if_pos h

theorem pieceChars_last {c : Char} (h : isBlank c = false) : pieceChars [c] = [[c]] := by
  rw [pieceChars.eq_def]
  simp [h, pieceChars]

theorem pieceChars_of_end {c next : Char} (h : isBlank c = false) (hNext : isBlank next = true)
    (cs : List Char) : pieceChars (c :: next :: cs) = [c] :: pieceChars cs := by
  rw [pieceChars.eq_def]
  simp only [h, Bool.false_eq_true, if_false, pieceChars_of_blank hNext]
  cases pieceChars cs with
  | nil => rfl
  | cons piece pieces => exact if_pos hNext

theorem pieceChars_of_next {c next : Char} {cs piece : List Char} {pieces : List (List Char)}
    (h : isBlank c = false) (hNext : isBlank next = false)
    (hRest : pieceChars (next :: cs) = piece :: pieces) :
    pieceChars (c :: next :: cs) = (c :: piece) :: pieces := by
  rw [pieceChars.eq_def]
  simp [h, hNext, hRest]

theorem exists_pieceChars_of_head {c : Char} (h : isBlank c = false) (cs : List Char) :
    ∃ piece pieces, pieceChars (c :: cs) = (c :: piece) :: pieces := by
  rw [pieceChars.eq_def]
  simp only [h, Bool.false_eq_true, if_false]
  split
  · split
    · exact ⟨[], _, rfl⟩
    · exact ⟨_, _, rfl⟩
  · exact ⟨[], _, rfl⟩

theorem pieceChars_ne_nil {cs : List Char} {c : Char} (hMember : c ∈ cs) (h : isBlank c = false) :
    pieceChars cs ≠ [] := by
  induction cs with
  | nil => cases hMember
  | cons first rest ih =>
    cases hFirst : isBlank first with
    | true =>
      rw [pieceChars_of_blank hFirst]
      rcases List.mem_cons.mp hMember with rfl | hRest
      · rw [h] at hFirst
        cases hFirst
      · exact ih hRest
    | false =>
      obtain ⟨piece, pieces, hPieces⟩ := exists_pieceChars_of_head hFirst rest
      simp [hPieces]

/-- By induction on the text before the blank: its last piece ends at the blank or before it. -/
theorem pieceChars_append {blank : Char} (h : isBlank blank = true) (cs rest : List Char) :
    pieceChars (cs ++ blank :: rest) = pieceChars cs ++ pieceChars rest := by
  induction cs with
  | nil => exact pieceChars_of_blank h rest
  | cons c cs ih =>
    rw [List.cons_append]
    cases hFirst : isBlank c with
    | true => rw [pieceChars_of_blank hFirst, pieceChars_of_blank hFirst, ih]
    | false =>
      cases cs with
      | nil =>
        rw [List.nil_append, pieceChars_of_end hFirst h, pieceChars_last hFirst]
        rfl
      | cons next cs =>
        rw [List.cons_append] at ih ⊢
        cases hNext : isBlank next with
        | true =>
          rw [pieceChars_of_blank hNext, pieceChars_of_blank hNext] at ih
          rw [pieceChars_of_end hFirst hNext, pieceChars_of_end hFirst hNext, ih]
          rfl
        | false =>
          obtain ⟨piece, pieces, hPieces⟩ :=
            List.exists_cons_of_ne_nil (pieceChars_ne_nil (List.mem_cons_self (l := cs)) hNext)
          rw [hPieces] at ih
          rw [pieceChars_of_next hFirst hNext hPieces, pieceChars_of_next hFirst hNext ih]
          rfl

theorem pieceChars_word {cs : List Char} (hNonempty : cs ≠ []) (h : ∀ c ∈ cs, isBlank c = false) :
    pieceChars cs = [cs] := by
  induction cs with
  | nil => exact absurd rfl hNonempty
  | cons c cs ih =>
    have hFirst := h c List.mem_cons_self
    cases cs with
    | nil => exact pieceChars_last hFirst
    | cons next cs =>
      have hRest := ih (by simp) fun other hOther => h other (List.mem_cons_of_mem _ hOther)
      exact pieceChars_of_next hFirst (h next (by simp)) hRest

theorem pieces_word {word : String} (hNonempty : word ≠ "")
    (h : ∀ c ∈ word.toList, isBlank c = false) : pieces word = [word] := by
  rw [pieces, pieceChars_word (by simpa using hNonempty) h]
  simp

theorem pieces_intercalate (words : List String) :
    pieces (" ".intercalate words) = words.flatMap pieces := by
  induction words with
  | nil => rfl
  | cons word words ih =>
    cases words with
    | nil => simp
    | cons next words =>
      have hText : (" ".intercalate (word :: next :: words)).toList =
          word.toList ++ ' ' :: (" ".intercalate (next :: words)).toList := by
        simp [String.intercalate_cons_cons]
      rw [pieces, hText, pieceChars_append (by decide), List.map_append, List.flatMap_cons, ← ih]
      rfl

theorem pieceChars_dropWhile (cs : List Char) : pieceChars (cs.dropWhile isBlank) = pieceChars cs := by
  induction cs with
  | nil => rfl
  | cons c cs ih =>
    cases hFirst : isBlank c with
    | true => rw [List.dropWhile_cons_of_pos hFirst, pieceChars_of_blank hFirst, ih]
    | false => rw [List.dropWhile_cons_of_neg (by simp [hFirst])]

theorem pieceChars_blanks {blanks : List Char} (h : ∀ c ∈ blanks, isBlank c = true) :
    pieceChars blanks = [] := by
  induction blanks with
  | nil => rfl
  | cons blank blanks ih =>
    rw [pieceChars_of_blank (h blank List.mem_cons_self),
      ih fun other hOther => h other (List.mem_cons_of_mem _ hOther)]

theorem pieceChars_append_blanks (cs : List Char) {blanks : List Char}
    (h : ∀ c ∈ blanks, isBlank c = true) : pieceChars (cs ++ blanks) = pieceChars cs := by
  cases blanks with
  | nil => rw [List.append_nil]
  | cons blank blanks =>
    rw [pieceChars_append (h blank List.mem_cons_self),
      pieceChars_blanks fun c hc => h c (List.mem_cons_of_mem _ hc), List.append_nil]

theorem exists_dropWhile_eq_stripChars_append (cs : List Char) :
    ∃ blanks, cs.dropWhile isBlank = stripChars cs ++ blanks ∧ ∀ c ∈ blanks, isBlank c = true := by
  let reversed := (cs.dropWhile isBlank).reverse
  refine ⟨(reversed.takeWhile isBlank).reverse, ?_, fun c hc => ?_⟩
  · have hSplit := congrArg List.reverse (List.takeWhile_append_dropWhile (p := isBlank) (l := reversed))
    rw [List.reverse_append] at hSplit
    rw [stripChars, hSplit, List.reverse_reverse]
  · exact List.all_eq_true.mp List.all_takeWhile c (List.mem_reverse.mp hc)

theorem exists_eq_append_stripChars (cs : List Char) :
    ∃ before after, cs = before ++ (stripChars cs ++ after) ∧ (∀ c ∈ before, isBlank c = true) ∧
      ∀ c ∈ after, isBlank c = true := by
  obtain ⟨after, hRest, hAfter⟩ := exists_dropWhile_eq_stripChars_append cs
  refine ⟨cs.takeWhile isBlank, after, ?_, List.all_eq_true.mp List.all_takeWhile, hAfter⟩
  rw [← hRest, List.takeWhile_append_dropWhile]

theorem dropWhile_append_of_head {blanks rest : List Char} (h : ∀ c ∈ blanks, isBlank c = true)
    (hHead : ∀ c, rest.head? = some c → isBlank c = false) :
    (blanks ++ rest).dropWhile isBlank = rest := by
  rw [List.dropWhile_append_of_pos h]
  cases rest with
  | nil => rfl
  | cons c rest => exact List.dropWhile_cons_of_neg (by simp [hHead c rfl])

theorem stripChars_append {before word after : List Char} (hBefore : ∀ c ∈ before, isBlank c = true)
    (hNonempty : word ≠ []) (hWord : ∀ c ∈ word, isBlank c = false)
    (hAfter : ∀ c ∈ after, isBlank c = true) : stripChars (before ++ (word ++ after)) = word := by
  have hFront : (before ++ (word ++ after)).dropWhile isBlank = word ++ after := by
    apply dropWhile_append_of_head hBefore
    intro c hHead
    obtain ⟨first, rest, rfl⟩ := List.exists_cons_of_ne_nil hNonempty
    cases hHead
    exact hWord c List.mem_cons_self
  have hBack : (after.reverse ++ word.reverse).dropWhile isBlank = word.reverse := by
    apply dropWhile_append_of_head (by simpa using hAfter)
    intro c hHead
    exact hWord c (List.mem_reverse.mp (List.mem_of_head? hHead))
  rw [stripChars, hFront, List.reverse_append, hBack, List.reverse_reverse]

theorem pieces_strip (text : String) : pieces (strip text) = pieces text := by
  obtain ⟨blanks, hText, hBlanks⟩ := exists_dropWhile_eq_stripChars_append text.toList
  rw [pieces, pieces, strip, String.toList_ofList, ← pieceChars_append_blanks _ hBlanks, ← hText,
    pieceChars_dropWhile]

/-- What is left starts with no blank, and its first piece starts with the same character. -/
theorem exists_pieces_of_strip {text : String} {c : Char} {rest : List Char}
    (h : (strip text).toList = c :: rest) :
    ∃ first others, pieces text = first :: others ∧ first.toList.head? = some c := by
  obtain ⟨blanks, hText, -⟩ := exists_dropWhile_eq_stripChars_append text.toList
  rw [strip, String.toList_ofList] at h
  have hFirst : isBlank c = false := by
    have hHead := List.head?_dropWhile_not isBlank text.toList
    rw [hText, h] at hHead
    simpa using hHead
  obtain ⟨piece, others, hPieces⟩ := exists_pieceChars_of_head hFirst rest
  refine ⟨String.ofList (c :: piece), others.map String.ofList, ?_, by simp⟩
  rw [← pieces_strip, pieces, strip, String.toList_ofList, h, hPieces, List.map_cons]

end TableStore.Text
