import Mathlib.Data.List.Chain
import TableStore.Text.Numeral

/-! # The digits of a numeral

The characters that are read as the digits of a numeral are decimal digits of any script, at least one,
with underscores that stand alone between two of them. Their values are the digits.
-/

namespace TableStore

open Text

set_option autoImplicit false

/-- Decimal digits of any script, and underscores that stand neither at an end nor side by side. -/
structure IsFigures (cs : List Char) : Prop where
  digit_or_underscore : ∀ c ∈ cs, isDigit c = true ∨ c = '_'
  head_ne : cs.head? ≠ some '_'
  last_ne : cs.getLast? ≠ some '_'
  apart : cs.IsChain fun left right => ¬(left = '_' ∧ right = '_')

theorem digit?_underscore : digit? '_' = none := by
  decide

theorem ne_underscore_of_isDigit {c : Char} (h : isDigit c = true) : c ≠ '_' := by
  rintro rfl
  exact absurd h (by decide)

namespace IsFigures

variable {c next : Char} {cs : List Char}

theorem isDigit_head (h : IsFigures (c :: cs)) : isDigit c = true :=
  (h.digit_or_underscore c List.mem_cons_self).resolve_right (by simpa using h.head_ne)

theorem singleton_iff : IsFigures [c] ↔ isDigit c = true := by
  refine ⟨isDigit_head, fun h => ?_⟩
  have hOther := ne_underscore_of_isDigit h
  exact ⟨by simp [h], by simpa, by simpa, .singleton c⟩

theorem cons_iff (hNext : next ≠ '_') :
    IsFigures (c :: next :: cs) ↔ isDigit c = true ∧ IsFigures (next :: cs) := by
  constructor
  · intro h
    refine ⟨h.isDigit_head, ?_, by simpa using hNext, by simpa using h.last_ne, h.apart.tail⟩
    exact fun other hOther => h.digit_or_underscore other (List.mem_cons_of_mem _ hOther)
  · rintro ⟨hDigit, hRest⟩
    have hOther := ne_underscore_of_isDigit hDigit
    refine ⟨?_, by simpa using hOther, by simpa using hRest.last_ne, ?_⟩
    · exact List.forall_mem_cons.mpr ⟨.inl hDigit, hRest.digit_or_underscore⟩
    · exact .cons_cons (by simp [hOther]) hRest.apart

/-- An underscore stands behind a digit, and another digit follows it. -/
theorem cons_underscore_iff :
    IsFigures (c :: '_' :: cs) ↔ isDigit c = true ∧ cs ≠ [] ∧ IsFigures cs := by
  constructor
  · intro h
    have hNonempty : cs ≠ [] := by
      rintro rfl
      exact h.last_ne rfl
    obtain ⟨next, rest, rfl⟩ := List.exists_cons_of_ne_nil hNonempty
    have hNext := (List.isChain_cons_cons.mp h.apart.tail).1
    refine ⟨h.isDigit_head, hNonempty, ?_, by simpa using hNext, by simpa using h.last_ne,
      h.apart.tail.tail⟩
    exact fun other hOther => h.digit_or_underscore other (by simp [hOther])
  · rintro ⟨hDigit, hNonempty, hRest⟩
    obtain ⟨next, rest, rfl⟩ := List.exists_cons_of_ne_nil hNonempty
    have hOther := ne_underscore_of_isDigit hDigit
    have hNext := ne_underscore_of_isDigit hRest.isDigit_head
    refine ⟨?_, by simpa using hOther, by simpa using hRest.last_ne, ?_⟩
    · exact List.forall_mem_cons.mpr
        ⟨.inl hDigit, List.forall_mem_cons.mpr ⟨.inr rfl, hRest.digit_or_underscore⟩⟩
    · exact .cons_cons (by simp [hOther]) (.cons_cons (by simp [hNext]) hRest.apart)

theorem of_isDigit (h : ∀ c ∈ cs, isDigit c = true) : IsFigures cs where
  digit_or_underscore c hc := .inl (h c hc)
  head_ne hHead := ne_underscore_of_isDigit (h _ (List.mem_of_head? hHead)) rfl
  last_ne hLast := ne_underscore_of_isDigit (h _ (List.mem_of_getLast? hLast)) rfl
  apart := by
    refine List.Pairwise.isChain (List.pairwise_of_forall_mem_list fun left hLeft right _ => ?_)
    exact fun hBoth => ne_underscore_of_isDigit (h left hLeft) hBoth.1

/-- No digit is lost: the first character is one. -/
theorem length_pos_iff (h : IsFigures cs) : 1 ≤ (cs.filterMap digit?).length ↔ cs ≠ [] := by
  cases cs with
  | nil => simp
  | cons c cs =>
    obtain ⟨d, hDigit⟩ := Option.isSome_iff_exists.mp h.isDigit_head
    simp [hDigit]

end IsFigures

/-- By induction on the reading: a digit is read alone, or with the underscore behind it. -/
theorem digitValues?_eq_some_iff {cs : List Char} {digits : List Nat} :
    digitValues? cs = some digits ↔ cs ≠ [] ∧ IsFigures cs ∧ cs.filterMap digit? = digits := by
  fun_induction digitValues? cs generalizing digits with
  | case1 => simp
  | case2 c =>
    rw [IsFigures.singleton_iff, isDigit]
    cases hDigit : digit? c <;> simp [hDigit]
  | case3 c cs ih =>
    rw [IsFigures.cons_underscore_iff, isDigit]
    cases hDigit : digit? c with
    | none => simp
    | some d => simp [hDigit, digit?_underscore, Option.bind_eq_some_iff, ih, and_assoc]
  | case4 c cs hSingle hUnderscore ih =>
    obtain ⟨next, rest, rfl⟩ := List.exists_cons_of_ne_nil hSingle
    have hNext : next ≠ '_' := fun hSame => hUnderscore rest (by rw [hSame])
    rw [IsFigures.cons_iff hNext, isDigit]
    cases hDigit : digit? c with
    | none => simp
    | some d => simp [hDigit, Option.bind_eq_some_iff, ih, and_assoc]

theorem digitValues?_of_isDigit {cs : List Char} (hNonempty : cs ≠ [])
    (h : ∀ c ∈ cs, isDigit c = true) : digitValues? cs = some (cs.filterMap digit?) :=
  digitValues?_eq_some_iff.mpr ⟨hNonempty, .of_isDigit h, rfl⟩

end TableStore
