import TableStore.Proofs.Token.Front

/-! # Names and reserved words

A reserved word ends where no word character follows, and a name ends where no ASCII one does. So a
reserved word is read as a name exactly where a letter or a number beyond ASCII comes right after it;
in a text without such a place no name is a reserved word, in any case.
-/

namespace TableStore

open Text

set_option autoImplicit false

/-- Somewhere a reserved word stands right before a word character that no name can hold. -/
def ProlongsKeyword (cs : List Char) : Prop :=
  ∃ before word c after, cs = before ++ (word ++ c :: after) ∧ SpellsKeyword word ∧
    isWord c = true ∧ isNameRest c = false

/-- In ASCII every word character can be part of a name. -/
theorem not_prolongsKeyword_of_ascii {cs : List Char} (h : ∀ c ∈ cs, c.toNat < 128) :
    ¬ProlongsKeyword cs := by
  rintro ⟨before, word, c, after, rfl, -, hWord, hRest⟩
  have hSmall : c.toNat < 128 := h c (by simp)
  rw [isWord, if_pos hSmall] at hWord
  rw [isNameRest, hWord] at hRest
  cases hRest

namespace Shape

variable {cs : List Char} {length : Nat}

/-- A name takes in all characters that it can. -/
theorem isNameRest_eq_false_of_nameLength? (h : nameLength? cs = some length) {c : Char}
    {after : List Char} (hAfter : cs.drop length = c :: after) : isNameRest c = false := by
  cases cs with
  | nil => cases h
  | cons first rest =>
    rw [nameLength?] at h
    split at h
    · cases h
      rw [List.drop_succ_cons, drop_length_takeWhile] at hAfter
      simpa [hAfter] using List.head?_dropWhile_not isNameRest rest
    · cases h

theorem exists_of_spellsKeyword (h : front? cs = some (.name, length))
    (hSpells : SpellsKeyword (cs.take length)) :
    ∃ c after, cs.drop length = c :: after ∧ isWord c = true ∧ isNameRest c = false := by
  have hLength : nameLength? cs = some length := length?_of_front? h
  have hBound := (length_bounds_of_front? h).2
  cases hEnd : atWordEnd (cs.drop length) with
  | true =>
    -- The word ends with the name, so it is read as a reserved word before names are tried.
    have hKeyword := front?_keyword hSpells hEnd
    rw [List.take_append_drop, h] at hKeyword
    cases hKeyword
  | false =>
    cases hAfter : cs.drop length with
    | nil =>
      rw [hAfter] at hEnd
      cases hEnd
    | cons c after =>
      rw [hAfter, atWordEnd] at hEnd
      exact ⟨c, after, rfl, by simpa using hEnd, isNameRest_eq_false_of_nameLength? hLength hAfter⟩

end Shape

theorem not_spellsKeyword_of_mem_tokens {text : String} {token : Token} (h : token ∈ tokens text)
    (hKind : token.isIdentifier) (hText : ¬ProlongsKeyword text.toList) :
    ¬SpellsKeyword token.value.toList := by
  intro hSpells
  obtain ⟨source, length, ⟨before, hBefore⟩, hFront, hValue⟩ := exists_front?_of_mem_tokens h
  have hName : token.kind = .identifier := eq_of_beq hKind
  rw [hName] at hFront hValue
  rw [hValue, TokenKind.value_of_ne_keyword (by decide), String.toList_ofList] at hSpells
  obtain ⟨c, after, hAfter, hWord, hRest⟩ := Shape.exists_of_spellsKeyword hFront hSpells
  refine hText ⟨before, source.take length, c, after, ?_, hSpells, hWord, hRest⟩
  rw [← hBefore, ← hAfter, List.take_append_drop]

end TableStore
