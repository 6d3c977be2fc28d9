import TableStore.Proofs.Text.Figures
import TableStore.Proofs.Text.Numeral
import TableStore.Proofs.Text.Pieces
import TableStore.Proofs.Token.CharClass

/-! # Integers as they are printed

An integer is printed in decimal digits, after a minus sign if it is negative. This is a number as
tokens have it, and if it does not have too many digits it is read as the integer again.
-/

namespace TableStore

open Text

set_option autoImplicit false

theorem isDigit_of_ascii {c : Char} (h : c.isDigit = true) : isDigit c = true := by
  rw [isDigit, digit?_of_isDigit h]
  rfl

theorem digitValues?_of_ascii {cs : List Char} (hNonempty : cs ≠ [])
    (h : ∀ c ∈ cs, c.isDigit = true) :
    digitValues? cs = some (cs.map fun c => c.toNat - '0'.toNat) := by
  have hValues : cs.filterMap digit? = cs.filterMap (some ∘ fun c => c.toNat - '0'.toNat) :=
    List.filterMap_congr fun c hc => digit?_of_isDigit (h c hc)
  rw [digitValues?_of_isDigit hNonempty fun c hc => isDigit_of_ascii (h c hc), hValues,
    List.filterMap_eq_map]

theorem isDigit_of_mem_decimal {n : Nat} {c : Char} (h : c ∈ Nat.toDigits 10 n) : c.isDigit = true :=
  Nat.isDigit_of_mem_toDigits (by decide) (by decide) h

theorem natural?_decimal {n : Nat} (h : (Nat.toDigits 10 n).length ≤ maxDigits) :
    natural? (Nat.toDigits 10 n) = some n := by
  have hDigits : ∀ c ∈ Nat.toDigits 10 n, c.isDigit = true := fun c hc => isDigit_of_mem_decimal hc
  have hValues := digitValues?_of_ascii Nat.toDigits_ne_nil hDigits
  have hPositional : positional ((Nat.toDigits 10 n).map fun c => c.toNat - '0'.toNat) = n := by
    rw [positional, List.foldl_map]
    exact Nat.ofDigitChars_ten_toDigits
  rw [natural?, hValues, Option.bind_eq_bind, Option.bind_some, hPositional]
  exact if_pos (by simpa using h)

theorem integerChars?_unsigned {cs : List Char} (hMinus : cs.head? ≠ some '-')
    (hPlus : cs.head? ≠ some '+') :
    integerChars? cs = Option.map (fun value : Nat => (value : Int)) (natural? cs) := by
  rw [integerChars?]
  · cases natural? cs <;> rfl
  · rintro rest rfl
    exact hMinus rfl
  · rintro rest rfl
    exact hPlus rfl

theorem head?_ne {law : Char → Bool} {cs : List Char} {other : Char}
    (h : ∀ c, cs.head? = some c → law c = true) (hOther : law other = false) : cs.head? ≠ some other := by
  intro hSame
  rw [h other hSame] at hOther
  cases hOther

/-- No digit is a sign. -/
theorem integerChars?_of_isDigit {cs : List Char} (h : ∀ c ∈ cs, isDigit c = true) :
    integerChars? cs = (natural? cs).map fun value => (value : Int) := by
  have hHead : ∀ c, cs.head? = some c → isDigit c = true := fun c hc => h c (List.mem_of_head? hc)
  rw [integerChars?_unsigned (head?_ne hHead (by decide)) (head?_ne hHead (by decide))]
  cases natural? cs <;> rfl

theorem toList_toString_int (n : Int) :
    (toString n).toList =
      if 0 ≤ n then Nat.toDigits 10 n.natAbs else '-' :: Nat.toDigits 10 n.natAbs := by
  cases n with
  | ofNat m =>
    have hText : toString (Int.ofNat m) = toString m := rfl
    rw [hText, Nat.toString_eq_ofList_toDigits, String.toList_ofList]
    exact (if_pos (Int.natCast_nonneg m)).symm
  | negSucc m =>
    have hText : toString (Int.negSucc m) = "-" ++ toString (m + 1) := rfl
    have hDigits : (toString (m + 1)).toList = Nat.toDigits 10 (m + 1) := by
      rw [Nat.toString_eq_ofList_toDigits, String.toList_ofList]
    rw [hText, String.toList_append, hDigits]
    exact (if_neg (Int.not_le.mpr (Int.negSucc_lt_zero m))).symm

theorem isNumber_toString (n : Int) : IsNumber (toString n).toList := by
  refine ⟨Nat.toDigits 10 n.natAbs, Nat.toDigits_ne_nil, ?_, ?_⟩
  · exact fun c hc => isDigit_of_ascii (isDigit_of_mem_decimal hc)
  · rw [toList_toString_int]
    split
    · exact .inl rfl
    · exact .inr rfl

theorem stripChars_of_word {cs : List Char} (h : ∀ c ∈ cs, isBlank c = false) : stripChars cs = cs := by
  cases cs with
  | nil => rfl
  | cons c cs =>
    have hStripped := stripChars_append (List.forall_mem_nil _) (List.cons_ne_nil c cs) h
      (List.forall_mem_nil _)
    simpa using hStripped

theorem integer?_toString {n : Int} (h : digitCount n ≤ maxDigits) : integer? (toString n) = some n := by
  rw [integer?, stripChars_of_word (isNumber_toString n).isBlank_eq_false, toList_toString_int]
  have hNatural : natural? (Nat.toDigits 10 n.natAbs) = some n.natAbs := natural?_decimal h
  split
  · next hSign =>
    rw [integerChars?_of_isDigit fun c hc => isDigit_of_ascii (isDigit_of_mem_decimal hc), hNatural]
    exact congrArg some (Int.natAbs_of_nonneg hSign)
  · next hSign =>
    have hNegated : -(n.natAbs : Int) = n := by omega
    rw [integerChars?, hNatural]
    exact congrArg some hNegated

end TableStore
