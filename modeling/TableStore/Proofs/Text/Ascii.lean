import Mathlib.Data.List.Basic
import TableStore.Proofs.Token.Written
import TableStore.Text.Case.Fold

/-! # ASCII characters and the upper case of names

A law of ASCII characters holds if it holds of each of them. Names are ASCII, so their upper case is
taken character by character; it is a name again, it has no upper case but itself, and it has the same
case folding.
-/

namespace TableStore

open Text

set_option autoImplicit false

theorem forall_ascii (law : Char → Prop) (h : ∀ code < 128, law (Char.ofNat code)) (c : Char)
    (hSmall : c.toNat < 128) : law c := by
  have hLaw := h c.toNat hSmall
  rwa [Char.ofNat_toNat] at hLaw

theorem toNat_lt_of_isNameRest {c : Char} (h : isNameRest c) : c.toNat < 128 := by
  simp only [isNameRest, Bool.or_eq_true, beq_iff_eq] at h
  rcases h with hAlphanum | rfl
  · exact toNat_lt_of_isAlphanum hAlphanum
  · decide

theorem isNameRest_of_isNameStart {c : Char} (h : isNameStart c) : isNameRest c := by
  simp only [isNameStart, isNameRest, Char.isAlphanum, Bool.or_eq_true] at h ⊢
  rcases h with hAlpha | hUnderscore
  · exact .inl (.inl hAlpha)
  · exact .inr hUnderscore

theorem IsName.all_isNameRest {cs : List Char} (h : IsName cs) : ∀ c ∈ cs, isNameRest c := by
  obtain ⟨first, rest, rfl, hFirst, hRest⟩ := h
  intro c hc
  rcases List.mem_cons.mp hc with rfl | hc
  · exact isNameRest_of_isNameStart hFirst
  · exact hRest c hc

theorem isNameStart_toUpper {c : Char} (h : isNameStart c) : isNameStart c.toUpper := by
  have hSmall := toNat_lt_of_isNameRest (isNameRest_of_isNameStart h)
  exact forall_ascii (fun c => isNameStart c → isNameStart c.toUpper) (by decide) c hSmall h

theorem isNameRest_toUpper {c : Char} (h : isNameRest c) : isNameRest c.toUpper :=
  forall_ascii (fun c => isNameRest c → isNameRest c.toUpper) (by decide) c
    (toNat_lt_of_isNameRest h) h

theorem toUpper_of_not_ascii {c : Char} (h : 128 ≤ c.toNat) : c.toUpper = c := by
  refine dif_neg ?_
  rintro ⟨-, hLast⟩
  have hSmall : c.toNat ≤ 'z'.toNat := hLast
  have hBound : 'z'.toNat < 128 := by decide
  omega

theorem isNameStart_of_toUpper {c : Char} (h : isNameStart c.toUpper) : isNameStart c := by
  by_cases hSmall : c.toNat < 128
  · exact forall_ascii (fun c => isNameStart c.toUpper → isNameStart c) (by decide) c hSmall h
  · rwa [toUpper_of_not_ascii (by omega)] at h

theorem isNameRest_of_toUpper {c : Char} (h : isNameRest c.toUpper) : isNameRest c := by
  by_cases hSmall : c.toNat < 128
  · exact forall_ascii (fun c => isNameRest c.toUpper → isNameRest c) (by decide) c hSmall h
  · rwa [toUpper_of_not_ascii (by omega)] at h

theorem isName_of_map_toUpper {cs : List Char} (h : IsName (cs.map Char.toUpper)) : IsName cs := by
  obtain ⟨capital, capitals, hText, hFirst, hRest⟩ := h
  obtain ⟨first, rest, rfl, rfl, rfl⟩ := List.map_eq_cons_iff.mp hText
  refine ⟨first, rest, rfl, isNameStart_of_toUpper hFirst, fun c hc => ?_⟩
  exact isNameRest_of_toUpper (hRest c.toUpper (List.mem_map_of_mem hc))

theorem flatMap_upperChar {cs : List Char} (h : ∀ c ∈ cs, c.toNat < 128) :
    cs.flatMap upperChar = cs.map Char.toUpper := by
  rw [List.map_eq_flatMap]
  exact List.flatMap_congr fun c hc => if_pos (h c hc)

theorem IsName.toList_upper {text : String} (h : IsName text.toList) :
    (upper text).toList = text.toList.map Char.toUpper := by
  rw [upper, String.toList_ofList, flatMap_upperChar]
  intro c hc
  exact toNat_lt_of_isNameRest (h.all_isNameRest c hc)

theorem IsName.upper {text : String} (h : IsName text.toList) : IsName (upper text).toList := by
  rw [h.toList_upper]
  obtain ⟨first, rest, hText, hFirst, hRest⟩ := h
  refine ⟨first.toUpper, rest.map Char.toUpper, by rw [hText]; rfl, isNameStart_toUpper hFirst, ?_⟩
  intro c hc
  obtain ⟨other, hOther, rfl⟩ := List.mem_map.mp hc
  exact isNameRest_toUpper (hRest other hOther)

theorem IsName.upper_upper {text : String} (h : IsName text.toList) :
    Text.upper (Text.upper text) = Text.upper text := by
  apply String.toList_inj.mp
  rw [h.upper.toList_upper, h.toList_upper, List.map_map]
  apply List.map_congr_left
  intro c hc
  exact forall_ascii (fun c => c.toUpper.toUpper = c.toUpper) (by decide) c
    (toNat_lt_of_isNameRest (h.all_isNameRest c hc))

theorem flatMap_foldChar {cs : List Char} (h : ∀ c ∈ cs, c.toNat < 128) :
    cs.flatMap foldChar = cs.map Char.toLower := by
  rw [List.map_eq_flatMap]
  exact List.flatMap_congr fun c hc => if_pos (h c hc)

theorem IsName.fold_upper {text : String} (h : IsName text.toList) :
    fold (Text.upper text) = fold text := by
  have hSmall : ∀ c ∈ text.toList, c.toNat < 128 := fun c hc =>
    toNat_lt_of_isNameRest (h.all_isNameRest c hc)
  have hUpperSmall : ∀ c ∈ (Text.upper text).toList, c.toNat < 128 := fun c hc =>
    toNat_lt_of_isNameRest (h.upper.all_isNameRest c hc)
  rw [fold, fold, flatMap_foldChar hSmall, flatMap_foldChar hUpperSmall, h.toList_upper, List.map_map]
  refine congrArg String.ofList (List.map_congr_left fun c hc => ?_)
  exact forall_ascii (fun c => c.toUpper.toLower = c.toLower) (by decide) c (hSmall c hc)

end TableStore
