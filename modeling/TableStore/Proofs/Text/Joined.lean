import Mathlib.Data.List.Infix

/-! # Joined texts

Texts that are joined by a separator can be told apart again if none of them holds the separator and no
end of the separator is a start of it: then the separator cannot lie across the border of a text.
-/

namespace TableStore.Text

set_option autoImplicit false

/-- No end of the separator is a start of it, except for the whole. -/
def Unbordered (separator : List Char) : Prop :=
  ∀ passed < separator.length, 0 < passed → ¬separator.drop passed <+: separator

instance (separator : List Char) : Decidable (Unbordered separator) :=
  inferInstanceAs (Decidable (∀ _ < _, _ → _))

namespace Unbordered

variable {separator : List Char} (h : Unbordered separator)

include h

/-- What comes before a separator does not start with the separator, nor does it end inside one. -/
theorem eq_nil_of_append {more rest others : List Char} (hLacks : ¬separator <:+: more)
    (hText : separator ++ rest = more ++ (separator ++ others)) : more = [] := by
  rcases List.append_eq_append_iff.mp hText with ⟨behind, rfl, -⟩ | ⟨border, hEnd, hRest⟩
  · exact absurd (List.prefix_append separator behind).isInfix hLacks
  · refine Decidable.of_not_not fun hMore => ?_
    have hPassed : more.length < separator.length := by
      refine Nat.lt_of_not_le fun hShort => hLacks ?_
      have hPrefix : more <+: separator := ⟨border, hEnd.symm⟩
      rw [hPrefix.eq_of_length_le hShort]
    have hDrop : separator.drop more.length = border := by rw [hEnd, List.drop_left]
    apply h more.length hPassed (List.length_pos_iff.mpr hMore)
    rw [hDrop]
    refine List.prefix_of_prefix_length_le (List.prefix_append border rest) ?_ ?_
    · rw [← hRest]
      exact List.prefix_append separator others
    · simp [hEnd]

theorem append_cancel {left right rest others : List Char} (hLeft : ¬separator <:+: left)
    (hRight : ¬separator <:+: right)
    (hText : left ++ (separator ++ rest) = right ++ (separator ++ others)) :
    left = right ∧ rest = others := by
  rcases List.append_eq_append_iff.mp hText with ⟨more, rfl, hMore⟩ | ⟨more, rfl, hMore⟩
  · have hLacks := fun hInfix => hRight (List.IsInfix.trans hInfix (List.suffix_append left more).isInfix)
    obtain rfl := h.eq_nil_of_append hLacks hMore
    exact ⟨(List.append_nil left).symm, List.append_cancel_left hMore⟩
  · have hLacks := fun hInfix => hLeft (List.IsInfix.trans hInfix (List.suffix_append right more).isInfix)
    obtain rfl := h.eq_nil_of_append hLacks hMore
    exact ⟨List.append_nil right, (List.append_cancel_left hMore).symm⟩

end Unbordered

theorem exists_singleton_of_not_infix {separator : List Char} {items : List (List Char)}
    (hNonempty : items ≠ []) (hLacks : ¬separator <:+: separator.intercalate items) :
    ∃ item, items = [item] := by
  match items with
  | [] => exact absurd rfl hNonempty
  | [item] => exact ⟨item, rfl⟩
  | item :: next :: items =>
    rw [List.intercalate_cons_cons] at hLacks
    exact absurd (List.infix_append _ _ _) hLacks

/-- By induction on the items: the first of them are equal, and so are the others. -/
theorem Unbordered.intercalate_inj {separator : List Char} (h : Unbordered separator)
    {items others : List (List Char)} (hItems : ∀ item ∈ items, ¬separator <:+: item)
    (hOthers : ∀ item ∈ others, ¬separator <:+: item) (hItemsNonempty : items ≠ [])
    (hOthersNonempty : others ≠ []) (hText : separator.intercalate items = separator.intercalate others) :
    items = others := by
  induction items generalizing others with
  | nil => exact absurd rfl hItemsNonempty
  | cons item items ih =>
    have hItem := hItems item List.mem_cons_self
    obtain ⟨other, others, rfl⟩ := List.exists_cons_of_ne_nil hOthersNonempty
    have hOther := hOthers other List.mem_cons_self
    cases items with
    | nil =>
      rw [List.intercalate_singleton] at hText
      rw [hText] at hItem ⊢
      obtain ⟨only, hOnly⟩ := exists_singleton_of_not_infix hOthersNonempty hItem
      rw [hOnly, List.intercalate_singleton]
    | cons next items =>
      cases others with
      | nil =>
        rw [List.intercalate_singleton] at hText
        rw [← hText] at hOther
        obtain ⟨only, hOnly⟩ := exists_singleton_of_not_infix hItemsNonempty hOther
        cases hOnly
      | cons following others =>
        rw [List.intercalate_cons_cons, List.intercalate_cons_cons, List.append_assoc,
          List.append_assoc] at hText
        obtain ⟨rfl, hRest⟩ := h.append_cancel hItem hOther hText
        rw [ih (fun item hMember => hItems item (List.mem_cons_of_mem _ hMember))
          (fun item hMember => hOthers item (List.mem_cons_of_mem _ hMember)) nofun nofun hRest]

/-- The separator is nowhere in the text. -/
def Lacks (separator text : String) : Prop :=
  ¬separator.toList <:+: text.toList

instance (separator text : String) : Decidable (Lacks separator text) :=
  inferInstanceAs (Decidable (¬_))

theorem exists_singleton_of_lacks {separator : String} {items : List String} (hNonempty : items ≠ [])
    (hLacks : Lacks separator (separator.intercalate items)) : ∃ item, items = [item] := by
  rw [Lacks, String.toList_intercalate] at hLacks
  obtain ⟨item, hItem⟩ := exists_singleton_of_not_infix (by simpa using hNonempty) hLacks
  obtain ⟨text, hText, -⟩ := List.map_eq_singleton_iff.mp hItem
  exact ⟨text, hText⟩

theorem joined_inj {separator : String} (h : Unbordered separator.toList) {items others : List String}
    (hItems : ∀ item ∈ items, Lacks separator item) (hOthers : ∀ item ∈ others, Lacks separator item)
    (hItemsNonempty : items ≠ []) (hOthersNonempty : others ≠ [])
    (hText : separator.intercalate items = separator.intercalate others) : items = others := by
  have hChars := congrArg String.toList hText
  rw [String.toList_intercalate, String.toList_intercalate] at hChars
  apply List.map_injective_iff.mpr fun _ _ => String.toList_injective
  refine h.intercalate_inj ?_ ?_ (by simpa using hItemsNonempty) (by simpa using hOthersNonempty) hChars
  · exact List.forall_mem_map.mpr hItems
  · exact List.forall_mem_map.mpr hOthers

/-- A separator of one character is lacked by what is joined of parts that lack it. -/
theorem not_mem_intercalate {c : Char} {separator : List Char} {items : List (List Char)}
    (hSeparator : c ∉ separator) (hItems : ∀ item ∈ items, c ∉ item) :
    c ∉ separator.intercalate items := by
  induction items with
  | nil => simp
  | cons item items ih =>
    have hOthers := ih fun other hOther => hItems other (List.mem_cons_of_mem _ hOther)
    have hItem := hItems item List.mem_cons_self
    cases items with
    | nil => simpa using hItem
    | cons next items =>
      rw [List.intercalate_cons_cons]
      simp only [List.mem_append, not_or]
      exact ⟨⟨hItem, hSeparator⟩, hOthers⟩

end TableStore.Text
