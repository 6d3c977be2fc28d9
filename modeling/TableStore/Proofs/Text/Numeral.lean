import Mathlib.Algebra.Group.Nat.Defs
import TableStore.Text.Numeral

/-! # The size of numerals

A numeral that is read has at least one digit and at most the greatest number of them, so its value
is written with no more digits than that, whatever zeros it starts with.
-/

namespace TableStore.Text

set_option autoImplicit false

theorem forall_lt_of_digit_bind {c : Char} {rest : Option (List Nat)} {digits : List Nat}
    (h : (do let d ← digit? c; let ds ← rest; return d :: ds) = some digits)
    (hRest : ∀ ds, rest = some ds → ∀ d ∈ ds, d < 10) : ∀ d ∈ digits, d < 10 := by
  obtain ⟨d, hDigit, hTail⟩ := Option.bind_eq_some_iff.mp h
  obtain ⟨ds, hDigits, hResult⟩ := Option.bind_eq_some_iff.mp hTail
  cases hResult
  intro other hOther
  rcases List.mem_cons.mp hOther with rfl | hOther
  · exact digit?_lt hDigit
  · exact hRest ds hDigits other hOther

theorem digitValues?_lt {cs : List Char} {digits : List Nat} (h : digitValues? cs = some digits) :
    ∀ d ∈ digits, d < 10 := by
  fun_induction digitValues? cs generalizing digits with
  | case1 => cases h
  | case2 c =>
    obtain ⟨d, hDigit, rfl⟩ := Option.map_eq_some_iff.mp h
    simpa using digit?_lt hDigit
  | case3 c cs ih => exact forall_lt_of_digit_bind h fun ds hDigits => ih hDigits
  | case4 c cs _ _ ih => exact forall_lt_of_digit_bind h fun ds hDigits => ih hDigits

theorem foldl_digits_lt (value : Nat) {digits : List Nat} (h : ∀ d ∈ digits, d < 10) :
    digits.foldl (fun value d => 10 * value + d) value < (value + 1) * 10 ^ digits.length := by
  induction digits generalizing value with
  | nil => simp
  | cons d digits ih =>
    have hDigit : d < 10 := h d List.mem_cons_self
    have hRest := ih (10 * value + d) fun other hOther => h other (List.mem_cons_of_mem _ hOther)
    rw [List.foldl_cons, List.length_cons, Nat.pow_succ, Nat.mul_comm (10 ^ _) 10, ← Nat.mul_assoc]
    exact Nat.lt_of_lt_of_le hRest (Nat.mul_le_mul_right _ (by omega))

theorem positional_lt {digits : List Nat} (h : ∀ d ∈ digits, d < 10) :
    positional digits < 10 ^ digits.length := by
  simpa [positional] using foldl_digits_lt 0 h

theorem natural?_lt {cs : List Char} {n : Nat} (h : natural? cs = some n) : n < 10 ^ maxDigits := by
  obtain ⟨digits, hDigits, hResult⟩ := Option.bind_eq_some_iff.mp h
  split at hResult
  · next hLength =>
    cases hResult
    exact Nat.lt_of_lt_of_le (positional_lt (digitValues?_lt hDigits))
      (Nat.pow_le_pow_right (by decide) hLength)
  · cases hResult

theorem natAbs_lt_of_integerChars? {cs : List Char} {n : Int} (h : integerChars? cs = some n) :
    n.natAbs < 10 ^ maxDigits := by
  unfold integerChars? at h
  split at h
  all_goals
    obtain ⟨value, hValue, rfl⟩ := Option.map_eq_some_iff.mp h
    obtain ⟨magnitude, hMagnitude, hSame⟩ := Option.bind_eq_some_iff.mp hValue
    cases hSame
    simpa using natural?_lt hMagnitude

theorem digitCount_le_iff {n : Int} : digitCount n ≤ maxDigits ↔ n.natAbs < 10 ^ maxDigits :=
  Nat.length_toDigits_le_iff (by decide) (by decide)

theorem digitCount_le_of_integer? {text : String} {n : Int} (h : integer? text = some n) :
    digitCount n ≤ maxDigits :=
  digitCount_le_iff.mpr (natAbs_lt_of_integerChars? h)

end TableStore.Text
