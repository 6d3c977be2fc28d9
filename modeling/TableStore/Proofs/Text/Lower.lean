import TableStore.Proofs.Text.Ascii
import TableStore.Text.Case.Lower

/-! # Lower case and dots

No character but the dot becomes a dot in lower case. So a text starts with a dot if it does so in
lower case.
-/

namespace TableStore.Text

set_option autoImplicit false

theorem toNat_ofNat_of_ne_zero {code : Nat} (h : (Char.ofNat code).toNat ≠ 0) :
    (Char.ofNat code).toNat = code := by
  by_cases hValid : code.isValidChar
  · have hCode : Char.ofNat code = Char.ofNatAux code hValid := dif_pos hValid
    rw [hCode]
    rfl
  · have hZero : Char.ofNat code = '\x00' := dif_neg hValid
    rw [hZero] at h
    exact absurd rfl h

/-- A mapping whose runs end up beyond a character leads to it from that character alone. -/
theorem CaseMapping.eq_of_mem_apply {mapping : CaseMapping} {target c : Char} (hTarget : target.toNat ≠ 0)
    (hRuns : ∀ run ∈ mapping.runs, (target.toNat : Int) < run.first + run.shift)
    (hExpansions : ∀ expansion ∈ mapping.expansions, target ∉ expansion.2.map Char.ofNat)
    (h : target ∈ mapping.apply c) : target = c := by
  rw [apply] at h
  split at h
  · next codes hCodes =>
    obtain ⟨before, after, hSplit, -⟩ := List.lookup_eq_some_iff.mp hCodes
    have hMember : (c.toNat, codes) ∈ mapping.expansions := by simp [hSplit]
    exact absurd h (hExpansions _ hMember)
  · split at h
    · next run hRun =>
      have hHas := List.find?_some hRun
      have hBeyond := hRuns run (List.mem_of_find?_eq_some hRun)
      simp only [CaseRun.has, Bool.and_eq_true, decide_eq_true_eq] at hHas
      have hCode := congrArg Char.toNat (List.mem_singleton.mp h)
      rw [hCode] at hTarget
      rw [toNat_ofNat_of_ne_zero hTarget] at hCode
      omega
    · exact List.mem_singleton.mp h

theorem eq_of_dot_mem_lowerChar {c : Char} (h : '.' ∈ lowerChar c) : c = '.' := by
  rw [lowerChar] at h
  split at h
  · next hSmall =>
    have hLower : c.toLower = '.' := (List.mem_singleton.mp h).symm
    exact forall_ascii (fun c => c.toLower = '.' → c = '.') (by decide) c hSmall hLower
  · have hRuns : ∀ run ∈ lowerMapping.runs, (('.'.toNat : Nat) : Int) < run.first + run.shift := by
      decide +kernel
    exact (CaseMapping.eq_of_mem_apply (by decide) hRuns (by decide) h).symm

theorem lowerChar_ne_nil (c : Char) : lowerChar c ≠ [] := by
  rw [lowerChar]
  split
  · simp
  · exact CaseMapping.apply_ne_nil (by decide) c

/-- The first character of the lower case comes from the first character. -/
theorem head?_of_head?_lower {text : String} (h : (lower text).toList.head? = some '.') :
    text.toList.head? = some '.' := by
  rw [lower, String.toList_ofList] at h
  cases hText : text.toList with
  | nil =>
    rw [hText] at h
    cases h
  | cons c cs =>
    rw [hText, lowerAfter] at h
    split at h
    · cases h
    · obtain ⟨first, others, hFirst⟩ := List.exists_cons_of_ne_nil (lowerChar_ne_nil c)
      rw [hFirst] at h
      cases h
      have hDot : c = '.' := eq_of_dot_mem_lowerChar (by simp [hFirst])
      rw [hDot]
      rfl

end TableStore.Text
