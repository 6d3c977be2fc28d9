import TableStore.Proofs.Token.Spelling

/-! # Lists as they are written

Words come first, then items in parentheses with a comma and a space between two of them. Parentheses
and commas part what stands next to them, so only the words among themselves and the parts of each item
have to be apart.
-/

namespace TableStore

set_option autoImplicit false

namespace Spelling

def comma : Spelling :=
  ⟨.symbol, Symbol.comma.text.toList, [' ']⟩

def openParen : Spelling :=
  ⟨.symbol, Symbol.openParen.text.toList, []⟩

def closeParen : Spelling :=
  ⟨.symbol, Symbol.closeParen.text.toList, []⟩

def commaList (items : List (List Spelling)) : List Spelling :=
  [comma].intercalate items

def wordsAndList (words : List Spelling) (items : List (List Spelling)) : List Spelling :=
  words ++ openParen :: (commaList items ++ [closeParen])

theorem spelled_comma : comma.Spelled :=
  ⟨⟨.comma, rfl⟩, isBlank_of_mem_space⟩

theorem spelled_openParen : openParen.Spelled :=
  ⟨⟨.openParen, rfl⟩, by simp [openParen]⟩

theorem spelled_closeParen : closeParen.Spelled :=
  ⟨⟨.closeParen, rfl⟩, by simp [closeParen]⟩

theorem map_toUpper_ne_of_symbol {spelling : Spelling} (hKind : spelling.kind = .symbol)
    (h : spelling.Spelled) {word : List Char} (hWord : 2 ≤ word.length) :
    spelling.text.map Char.toUpper ≠ word := by
  have hSpells := h.1
  rw [hKind] at hSpells
  obtain ⟨symbol, hText⟩ := hSpells
  rintro rfl
  have hLength : symbol.text.toList.length = 1 := by cases symbol <;> rfl
  rw [List.length_map, hText] at hWord
  omega

theorem parted_symbol_left {left : Spelling} (hKind : left.kind = .symbol) (h : left.Spelled)
    (right : Spelling) : Parted left right := by
  refine ⟨.inr (.inl (by rw [hKind]; rfl)), fun hOrder => ?_⟩
  exact absurd hOrder (map_toUpper_ne_of_symbol hKind h (by decide))

theorem parted_symbol_right {right : Spelling} (hKind : right.kind = .symbol) (h : right.Spelled)
    (left : Spelling) : Parted left right :=
  ⟨.inr (.inr (by rw [hKind]; rfl)), fun _ => map_toUpper_ne_of_symbol hKind h (by decide)⟩

theorem isChain_append_symbol {before after : List Spelling} {symbol : Spelling}
    (hKind : symbol.kind = .symbol) (h : symbol.Spelled) (hBefore : before.IsChain Parted)
    (hAfter : after.IsChain Parted) : (before ++ symbol :: after).IsChain Parted := by
  refine List.isChain_append.mpr ⟨hBefore, ?_, ?_⟩
  · refine List.isChain_cons.mpr ⟨?_, hAfter⟩
    exact fun right _ => parted_symbol_left hKind h right
  · intro left _ right hRight
    cases hRight
    exact parted_symbol_right hKind h left

section Items

variable {items : List (List Spelling)}

theorem isChain_commaList (h : ∀ item ∈ items, item.IsChain Parted) :
    (commaList items).IsChain Parted := by
  induction items with
  | nil => exact .nil
  | cons item items ih =>
    have hItem := h item List.mem_cons_self
    have hOthers := ih fun other hOther => h other (List.mem_cons_of_mem _ hOther)
    cases items with
    | nil => simpa [commaList] using hItem
    | cons next items =>
      rw [commaList, List.intercalate_cons_cons, List.append_assoc]
      exact isChain_append_symbol rfl spelled_comma hItem hOthers

theorem spelled_commaList (h : ∀ item ∈ items, ∀ spelling ∈ item, spelling.Spelled) :
    ∀ spelling ∈ commaList items, spelling.Spelled := by
  induction items with
  | nil => simp [commaList]
  | cons item items ih =>
    have hItem := h item List.mem_cons_self
    have hOthers := ih fun other hOther => h other (List.mem_cons_of_mem _ hOther)
    cases items with
    | nil => simpa [commaList] using hItem
    | cons next items =>
      intro spelling hSpelling
      rw [commaList, List.intercalate_cons_cons, List.append_assoc] at hSpelling
      rcases List.mem_append.mp hSpelling with hSpelling | hSpelling
      · exact hItem spelling hSpelling
      · rcases List.mem_cons.mp hSpelling with rfl | hSpelling
        · exact spelled_comma
        · exact hOthers spelling hSpelling

theorem separate_wordsAndList {words : List Spelling} (hWords : ∀ word ∈ words, word.Spelled)
    (hWordsParted : words.IsChain Parted) (hItems : ∀ item ∈ items, ∀ spelling ∈ item, spelling.Spelled)
    (hItemsParted : ∀ item ∈ items, item.IsChain Parted) : Separate (wordsAndList words items) := by
  apply separate_of_isChain
  · intro spelling hSpelling
    simp only [wordsAndList, List.mem_append, List.mem_cons, List.not_mem_nil, or_false] at hSpelling
    rcases hSpelling with hSpelling | rfl | hSpelling | rfl
    · exact hWords spelling hSpelling
    · exact spelled_openParen
    · exact spelled_commaList hItems spelling hSpelling
    · exact spelled_closeParen
  · refine isChain_append_symbol rfl spelled_openParen hWordsParted ?_
    exact isChain_append_symbol rfl spelled_closeParen (isChain_commaList hItemsParted) .nil

theorem flatMap_chars_commaList (items : List (List Spelling)) :
    (commaList items).flatMap chars = [',', ' '].intercalate (items.map (·.flatMap chars)) := by
  induction items with
  | nil => rfl
  | cons item items ih =>
    cases items with
    | nil => simp [commaList]
    | cons next items =>
      rw [commaList, List.intercalate_cons_cons, List.map_cons, List.map_cons,
        List.intercalate_cons_cons, List.flatMap_append, List.flatMap_append, ← List.map_cons, ← ih]
      rfl

end Items

end Spelling

/-- Items in parentheses. -/
def listText (items : List String) : String :=
  "(" ++ ", ".intercalate items ++ ")"

theorem Spelling.flatMap_chars_wordsAndList {words : List Spelling} {items : List (List Spelling)}
    {head : String} {texts : List String} (hWords : head.toList = words.flatMap chars)
    (hItems : texts.map String.toList = items.map (·.flatMap chars)) :
    (head ++ listText texts).toList = (wordsAndList words items).flatMap chars := by
  have hParens : openParen.chars = ['('] ∧ closeParen.chars = [')'] := by decide
  rw [listText, String.toList_append, String.toList_append, String.toList_append,
    String.toList_intercalate, hItems, hWords, wordsAndList, List.flatMap_append, List.flatMap_cons,
    List.flatMap_append, flatMap_chars_commaList, List.flatMap_singleton, hParens.1, hParens.2]
  rfl

end TableStore
