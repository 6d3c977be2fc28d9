import Mathlib.Data.List.Forall2
import TableStore.Proofs.Token.Spelling

/-! # Spans of tokens

Reading cuts one lexeme after another off the front of a text, so that each lexeme starts at the offset
at which the one before it stopped. A token shows the part of the text that it was cut from, and its
position is that of the offset. What is in no token is blank, or no lexeme of any shape starts there.
-/

namespace TableStore

open Text

set_option autoImplicit false

/-- The position after some characters: line feeds end the lines, and columns count from the last. -/
def positionAfter (before : List Char) : Position where
  line := before.count '\n' + 1
  column := (before.reverse.takeWhile (· != '\n')).length + 1

theorem positionAfter_concat (before : List Char) (c : Char) :
    positionAfter (before ++ [c]) = (positionAfter before).after c := by
  by_cases hFeed : c = '\n'
  · simp [positionAfter, Position.after, hFeed]
  · simp [positionAfter, Position.after, hFeed]

/-- By induction on the characters passed over, with any number of characters before them. -/
theorem positionAfter_append (before cs : List Char) :
    positionAfter (before ++ cs) = (positionAfter before).advance cs := by
  induction cs generalizing before with
  | nil => rw [List.append_nil]; rfl
  | cons c cs ih =>
    rw [List.append_cons, ih, positionAfter_concat]
    rfl

namespace Position

/-- On an earlier line, or on the same line and further left. -/
def Precedes (left right : Position) : Prop :=
  left.line < right.line ∨ (left.line = right.line ∧ left.column < right.column)

theorem Precedes.trans {first second third : Position} (hLeft : first.Precedes second)
    (hRight : second.Precedes third) : first.Precedes third := by
  unfold Precedes at *
  omega

theorem Precedes.ne {left right : Position} (h : left.Precedes right) : left ≠ right := by
  rintro rfl
  unfold Precedes at h
  omega

theorem precedes_after (position : Position) (c : Char) : position.Precedes (position.after c) := by
  rw [after]
  split
  · exact .inl (Nat.lt_succ_self _)
  · exact .inr ⟨rfl, Nat.lt_succ_self _⟩

theorem precedes_advance (position : Position) {cs : List Char} (h : cs ≠ []) :
    position.Precedes (position.advance cs) := by
  induction cs generalizing position with
  | nil => exact absurd rfl h
  | cons c cs ih =>
    have hFirst := position.precedes_after c
    by_cases hLast : cs = []
    · rw [hLast]
      exact hFirst
    · exact hFirst.trans (ih _ hLast)

end Position

/-- Positions grow with the offset. -/
theorem precedes_positionAfter_take {cs : List Char} {left right : Nat} (hOrder : left < right)
    (hInside : right ≤ cs.length) :
    (positionAfter (cs.take left)).Precedes (positionAfter (cs.take right)) := by
  obtain ⟨length, rfl⟩ := Nat.exists_eq_add_of_lt hOrder
  have hPassed : (cs.drop left).take (length + 1) ≠ [] := by
    intro hEmpty
    have hLength := congrArg List.length hEmpty
    simp only [List.length_take, List.length_drop, List.length_nil] at hLength
    omega
  rw [Nat.add_assoc, List.take_add, positionAfter_append]
  exact Position.precedes_advance _ hPassed

/-- A part of a text: from the offset of its first character up to the offset after its last. -/
structure Span where
  start : Nat
  stop : Nat

namespace Span

def Contains (span : Span) (offset : Nat) : Prop :=
  span.start ≤ offset ∧ offset < span.stop

/-- The part ends before the other one starts, or there. -/
def Before (left right : Span) : Prop :=
  left.stop ≤ right.start

def chars (span : Span) (cs : List Char) : List Char :=
  (cs.drop span.start).take (span.stop - span.start)

end Span

/-- The second text is the first with one underscore for each longest run of blanks. -/
inductive JoinsBlanks : List Char → List Char → Prop
  | nil : JoinsBlanks [] []
  | char {c : Char} {cs value : List Char} (letter : isBlank c = false) (rest : JoinsBlanks cs value) :
    JoinsBlanks (c :: cs) (c :: value)
  | run {gap cs value : List Char} (nonempty : gap ≠ []) (blanks : ∀ c ∈ gap, isBlank c = true)
    (longest : cs.head?.any isBlank = false) (rest : JoinsBlanks cs value) :
    JoinsBlanks (gap ++ cs) ('_' :: value)

/-- A blank in front of a run of blanks makes the run longer. -/
theorem JoinsBlanks.cons_blank {c : Char} {cs value : List Char} (h : JoinsBlanks cs value)
    (hBlank : isBlank c = true) (hNext : cs.head?.any isBlank = true) : JoinsBlanks (c :: cs) value := by
  cases h with
  | nil => cases hNext
  | char letter =>
    rw [List.head?_cons, Option.any_some, letter] at hNext
    cases hNext
  | @run gap cs value nonempty blanks longest rest =>
    rw [← List.cons_append]
    exact .run (List.cons_ne_nil c gap) (List.forall_mem_cons.mpr ⟨hBlank, blanks⟩) longest rest

theorem joinsBlanks_joinBlanks (cs : List Char) : JoinsBlanks cs (joinBlanks cs) := by
  induction cs with
  | nil => exact .nil
  | cons c cs ih =>
    rw [joinBlanks]
    cases hBlank : isBlank c with
    | false => exact .char hBlank ih
    | true =>
      cases hNext : cs.head?.any isBlank with
      | true => exact ih.cons_blank hBlank hNext
      | false =>
        have hRun : JoinsBlanks ([c] ++ cs) ('_' :: joinBlanks cs) :=
          .run (List.cons_ne_nil c []) (List.forall_mem_singleton.mpr hBlank) hNext ih
        exact hRun

theorem Shape.length?_eq_none_of_front? {cs : List Char} (h : front? cs = none) (shape : Shape) :
    shape.length? cs = none := by
  have hMember : shape ∈ all := by cases shape <;> decide
  simpa using List.findSome?_eq_none_iff.mp h shape hMember

/-- The lexeme is what is cut off the front of the text: what the first shape that fits takes, or one
character if none fits. -/
structure Lexeme.Fronts (lexeme : Lexeme) (cs : List Char) : Prop where
  nonempty : 0 < lexeme.text.length
  inside : lexeme.text.length ≤ cs.length
  taken : lexeme.text = cs.take lexeme.text.length
  shaped : Shape.front? cs = lexeme.shape.map fun shape => (shape, lexeme.text.length)
  stray : lexeme.shape = none → lexeme.text.length = 1

/-- One turn of the loop. -/
theorem exists_segment_eq_cons {cs : List Char} (h : cs ≠ []) :
    ∃ lexeme : Lexeme, lexeme.Fronts cs ∧
      segment cs = lexeme :: segment (cs.drop lexeme.text.length) := by
  cases hFront : Shape.front? cs with
  | none =>
    obtain ⟨c, cs, rfl⟩ := List.exists_cons_of_ne_nil h
    refine ⟨⟨none, [c]⟩, ⟨Nat.one_pos, by simp, rfl, hFront, fun _ => rfl⟩, ?_⟩
    rw [segment, segmentAfter, hFront]
    rfl
  | some found =>
    obtain ⟨shape, length⟩ := found
    obtain ⟨hPositive, hInside⟩ := Shape.length_bounds_of_front? hFront
    have hLength : (cs.take length).length = length := List.length_take_of_le hInside
    have hSegment : segment (cs.take length ++ cs.drop length) =
        ⟨some shape, cs.take length⟩ :: segment (cs.drop length) :=
      segment_append (by rw [List.take_append_drop, hLength, hFront])
    rw [List.take_append_drop] at hSegment
    refine ⟨⟨some shape, cs.take length⟩, ⟨?_, ?_, ?_, ?_, ?_⟩, ?_⟩
    · rwa [hLength]
    · rwa [hLength]
    · rw [hLength]
    · rw [hLength, hFront]
      rfl
    · intro hNone
      cases hNone
    · rw [hLength, hSegment]

/-- From the offset on, the text is cut into these lexemes; each comes with its own offset. -/
inductive Cut (cs : List Char) : Nat → List (Nat × Lexeme) → Prop
  | nil : Cut cs cs.length []
  | cons {offset : Nat} {lexeme : Lexeme} {entries : List (Nat × Lexeme)}
    (front : lexeme.Fronts (cs.drop offset)) (rest : Cut cs (offset + lexeme.text.length) entries) :
    Cut cs offset ((offset, lexeme) :: entries)

/-- The loop, by induction on what is left of the text. -/
theorem exists_cut (cs : List Char) {offset : Nat} (h : offset ≤ cs.length) :
    ∃ entries, Cut cs offset entries ∧ entries.map Prod.snd = segment (cs.drop offset) := by
  by_cases hEnd : offset = cs.length
  · subst hEnd
    exact ⟨[], .nil, by rw [List.drop_length]; rfl⟩
  · have hRest : cs.drop offset ≠ [] := by
      intro hEmpty
      have := List.drop_eq_nil_iff.mp hEmpty
      omega
    obtain ⟨lexeme, hFront, hSegment⟩ := exists_segment_eq_cons hRest
    have hPositive := hFront.nonempty
    have hInside := hFront.inside
    rw [List.length_drop] at hInside
    have hNext : offset + lexeme.text.length ≤ cs.length := by omega
    obtain ⟨entries, hCut, hEntries⟩ := exists_cut cs hNext
    refine ⟨(offset, lexeme) :: entries, .cons hFront hCut, ?_⟩
    rw [List.map_cons, hEntries, hSegment, List.drop_drop]
termination_by cs.length - offset

def spanOf (entry : Nat × Lexeme) : Span :=
  ⟨entry.1, entry.1 + entry.2.text.length⟩

namespace Cut

variable {cs : List Char} {offset : Nat} {entries : List (Nat × Lexeme)}

theorem place_eq (h : Cut cs offset entries) :
    place (positionAfter (cs.take offset)) (entries.map Prod.snd) =
      entries.map fun entry => (positionAfter (cs.take entry.1), entry.2) := by
  induction h with
  | nil => rfl
  | @cons offset lexeme entries front rest ih =>
    have hPassed : (positionAfter (cs.take offset)).advance lexeme.text =
        positionAfter (cs.take (offset + lexeme.text.length)) := by
      rw [List.take_add, ← front.taken, positionAfter_append]
    rw [List.map_cons, place, hPassed, ih, List.map_cons]

theorem of_mem (h : Cut cs offset entries) {entry : Nat × Lexeme} (hEntry : entry ∈ entries) :
    offset ≤ entry.1 ∧ entry.2.Fronts (cs.drop entry.1) := by
  induction h with
  | nil => cases hEntry
  | cons front rest ih =>
    rcases List.mem_cons.mp hEntry with rfl | hLater
    · exact ⟨Nat.le_refl _, front⟩
    · obtain ⟨hAfter, hFront⟩ := ih hLater
      exact ⟨Nat.le_of_add_right_le hAfter, hFront⟩

theorem pairwise_before (h : Cut cs offset entries) :
    entries.Pairwise fun left right => (spanOf left).Before (spanOf right) := by
  induction h with
  | nil => exact .nil
  | cons front rest ih => exact .cons (fun entry hEntry => (rest.of_mem hEntry).1) ih

/-- No offset is passed over. -/
theorem exists_contains (h : Cut cs offset entries) {index : Nat} (hAfter : offset ≤ index)
    (hInside : index < cs.length) : ∃ entry ∈ entries, (spanOf entry).Contains index := by
  induction h with
  | nil => omega
  | @cons offset lexeme entries front rest ih =>
    by_cases hHere : index < offset + lexeme.text.length
    · exact ⟨_, List.mem_cons_self, hAfter, hHere⟩
    · obtain ⟨entry, hEntry, hContains⟩ := ih (Nat.not_lt.mp hHere)
      exact ⟨entry, List.mem_cons_of_mem _ hEntry, hContains⟩

end Cut

/-- The token that an entry is read as, with the part of the text that it was cut from. -/
def spanToken? (cs : List Char) (entry : Nat × Lexeme) : Option (Span × Token) :=
  (entry.2.token? (positionAfter (cs.take entry.1))).map fun token => (spanOf entry, token)

theorem exists_cut_tokens (text : String) :
    ∃ entries, Cut text.toList 0 entries ∧
      tokens text = (entries.filterMap (spanToken? text.toList)).map Prod.snd := by
  obtain ⟨entries, hCut, hEntries⟩ := exists_cut text.toList (Nat.zero_le _)
  refine ⟨entries, hCut, ?_⟩
  have hPlaced : placedLexemes text =
      entries.map fun entry => (positionAfter (text.toList.take entry.1), entry.2) := by
    rw [← hCut.place_eq, hEntries]
    rfl
  rw [tokens, hPlaced, List.filterMap_map, List.map_filterMap]
  congr 1
  funext entry
  simp [spanToken?, Function.comp_def]

/-- The token is what the text shows there, of the kind of the first shape that fits. A keyword may be
written in any case and with any blanks. -/
structure Token.Shows (token : Token) (cs : List Char) (span : Span) : Prop where
  nonempty : span.start < span.stop
  inside : span.stop ≤ cs.length
  shape : Shape.front? (cs.drop span.start) = some (token.kind.shape, span.stop - span.start)
  text : token.kind ≠ .keyword → token.value = String.ofList (span.chars cs)
  word : token.kind = .keyword →
    JoinsBlanks ((span.chars cs).flatMap upperChar) token.value.toList
  position : token.position = positionAfter (cs.take span.start)

theorem Lexeme.token?_eq_none {lexeme : Lexeme} {position : Position}
    (h : lexeme.token? position = none) : lexeme.shape = some .blank ∨ lexeme.shape = none := by
  obtain ⟨shape, text⟩ := lexeme
  cases shape with
  | none => exact .inr rfl
  | some shape =>
    cases shape with
    | blank => exact .inl rfl
    | keyword | name | comparison | quoted | number | symbol => cases h

theorem Lexeme.Fronts.shows {lexeme : Lexeme} {cs : List Char} {offset : Nat} {token : Token}
    (h : lexeme.Fronts (cs.drop offset))
    (hToken : lexeme.token? (positionAfter (cs.take offset)) = some token) :
    token.Shows cs (spanOf (offset, lexeme)) := by
  obtain ⟨hShape, hValue, hPosition⟩ := Lexeme.token?_eq_some hToken
  have hPositive := h.nonempty
  have hInside := h.inside
  have hShaped := h.shaped
  rw [List.length_drop] at hInside
  rw [hShape] at hShaped
  have hStop : (spanOf (offset, lexeme)).stop - (spanOf (offset, lexeme)).start = lexeme.text.length :=
    Nat.add_sub_cancel_left _ _
  have hChars : (spanOf (offset, lexeme)).chars cs = lexeme.text := by
    rw [Span.chars, hStop]
    exact h.taken.symm
  refine ⟨?_, ?_, ?_, ?_, ?_, hPosition⟩
  · exact Nat.lt_add_of_pos_right hPositive
  · change offset + lexeme.text.length ≤ cs.length
    omega
  · rw [hStop]
    exact hShaped
  · intro hKind
    rw [hValue, hChars, TokenKind.value_of_ne_keyword hKind]
  · intro hKind
    rw [hValue, hKind, hChars, TokenKind.value, keywordValue, String.toList_ofList]
    exact joinsBlanks_joinBlanks _

/-- A lexeme that is no token: each of its characters is blank, or it is stray. -/
theorem Lexeme.Fronts.blank_or_stray {lexeme : Lexeme} {cs : List Char} {offset : Nat}
    (h : lexeme.Fronts (cs.drop offset)) {position : Position} (hToken : lexeme.token? position = none)
    {index : Nat} {c : Char} (hContains : (spanOf (offset, lexeme)).Contains index)
    (hChar : cs[index]? = some c) :
    isBlank c = true ∨ ∀ shape : Shape, shape.length? (cs.drop index) = none := by
  obtain ⟨hAfter, hBefore⟩ : offset ≤ index ∧ index < offset + lexeme.text.length := hContains
  have hShaped := h.shaped
  rcases Lexeme.token?_eq_none hToken with hShape | hShape
  · left
    rw [hShape] at hShaped
    have hBlanks := (Shape.take_of_runLength? (Shape.length?_of_front? hShaped)).2
    apply hBlanks
    apply List.mem_of_getElem? (i := index - offset)
    rw [List.getElem?_take_of_lt (by omega), List.getElem?_drop, Nat.add_sub_cancel' hAfter, hChar]
  · right
    -- a stray lexeme is one character long, so the index is the one at which it was tried
    have hOne := h.stray hShape
    have hSame : index = offset := by omega
    rw [hShape] at hShaped
    rw [hSame]
    exact Shape.length?_eq_none_of_front? hShaped

namespace Cut

variable {cs : List Char} {offset : Nat} {entries : List (Nat × Lexeme)}

theorem shows (h : Cut cs offset entries) :
    ∀ shown ∈ entries.filterMap (spanToken? cs), shown.2.Shows cs shown.1 := by
  intro shown hShown
  obtain ⟨entry, hEntry, hSpan⟩ := List.mem_filterMap.mp hShown
  obtain ⟨token, hToken, rfl⟩ := Option.map_eq_some_iff.mp hSpan
  exact (h.of_mem hEntry).2.shows hToken

theorem pairwise_spans (h : Cut cs offset entries) :
    (entries.filterMap (spanToken? cs)).Pairwise fun left right => left.1.Before right.1 := by
  refine h.pairwise_before.filterMap _ fun left right hBefore leftShown hLeft rightShown hRight => ?_
  obtain ⟨_, -, rfl⟩ := Option.map_eq_some_iff.mp hLeft
  obtain ⟨_, -, rfl⟩ := Option.map_eq_some_iff.mp hRight
  exact hBefore

/-- A token starts after the one before it has started, and both are inside of the text. -/
theorem pairwise_precedes (h : Cut cs offset entries) :
    (entries.filterMap (spanToken? cs)).Pairwise fun left right =>
      left.2.position.Precedes right.2.position := by
  refine h.pairwise_spans.imp_of_mem fun {left right} hLeft hRight hBefore => ?_
  have hLeftShows := h.shows left hLeft
  have hRightShows := h.shows right hRight
  rw [hLeftShows.position, hRightShows.position]
  apply precedes_positionAfter_take
  · exact Nat.lt_of_lt_of_le hLeftShows.nonempty hBefore
  · exact Nat.le_of_lt (Nat.lt_of_lt_of_le hRightShows.nonempty hRightShows.inside)

theorem blank_or_stray (h : Cut cs 0 entries) {index : Nat} {c : Char} (hChar : cs[index]? = some c)
    (hOutside : ∀ shown ∈ entries.filterMap (spanToken? cs), ¬shown.1.Contains index) :
    isBlank c = true ∨ ∀ shape : Shape, shape.length? (cs.drop index) = none := by
  obtain ⟨hInside, -⟩ := List.getElem?_eq_some_iff.mp hChar
  obtain ⟨entry, hEntry, hContains⟩ := h.exists_contains (Nat.zero_le index) hInside
  cases hToken : entry.2.token? (positionAfter (cs.take entry.1)) with
  | none => exact (h.of_mem hEntry).2.blank_or_stray hToken hContains hChar
  | some token =>
    have hShown : (spanOf entry, token) ∈ entries.filterMap (spanToken? cs) :=
      List.mem_filterMap.mpr ⟨entry, hEntry, by rw [spanToken?, hToken]; rfl⟩
    exact absurd hContains (hOutside _ hShown)

end Cut

/-- The tokens of a text are disjoint parts of it in their order, each at the position that it has in the
text; what is in none of them is blank, or no shape fits there. So a position belongs to one token. -/
theorem tokens_are_spans (text : String) :
    ∃ spans : List Span,
      List.Forall₂ (fun token span => token.Shows text.toList span) (tokens text) spans ∧
      spans.Pairwise Span.Before ∧
      (∀ index c, text.toList[index]? = some c → (∀ span ∈ spans, ¬span.Contains index) →
        isBlank c = true ∨ ∀ shape : Shape, shape.length? (text.toList.drop index) = none) ∧
      (tokens text).Pairwise (fun left right => left.position.Precedes right.position) ∧
      ((tokens text).map Token.position).Nodup := by
  obtain ⟨entries, hCut, hTokens⟩ := exists_cut_tokens text
  have hPrecedes : (tokens text).Pairwise fun left right => left.position.Precedes right.position := by
    rw [hTokens]
    exact List.pairwise_map.mpr hCut.pairwise_precedes
  refine ⟨(entries.filterMap (spanToken? text.toList)).map Prod.fst, ?_, ?_, ?_, hPrecedes, ?_⟩
  · rw [hTokens, List.forall₂_map_left_iff, List.forall₂_map_right_iff, List.forall₂_same]
    exact hCut.shows
  · exact List.pairwise_map.mpr hCut.pairwise_spans
  · intro index c hChar hOutside
    exact hCut.blank_or_stray hChar fun shown hShown => hOutside _ (List.mem_map_of_mem hShown)
  · exact List.pairwise_map.mpr (hPrecedes.imp Position.Precedes.ne)

/-- Quoted texts and keywords can hold line feeds. -/
example : (tokens "'a\nb' order\n by c").map Token.position = [⟨1, 1⟩, ⟨2, 4⟩, ⟨3, 5⟩] := by decide

end TableStore
