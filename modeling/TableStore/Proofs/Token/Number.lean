import Mathlib.Data.Nat.Digits.Defs
import TableStore.Condition
import TableStore.Proofs.Statement.WellFormed
import TableStore.Proofs.Text.Decimal
import TableStore.Proofs.Token.Spelling

/-! # Numbers and the integers that they denote

A number token is a numeral: a minus sign or none, then decimal digits of any script. An integer column
reads it as the integer that the sign and the digits denote, unless there are too many digits. What an
integer is printed as is one number token, and it denotes the integer.
-/

namespace TableStore

open Text

set_option autoImplicit false

/-- A sign and the values of decimal digits, the most significant first. -/
structure Numeral where
  negative : Bool
  digits : List Nat
deriving DecidableEq

namespace Numeral

def magnitude (numeral : Numeral) : Nat :=
  Nat.ofDigits 10 numeral.digits.reverse

def value (numeral : Numeral) : Int :=
  if numeral.negative then -(numeral.magnitude : Int) else numeral.magnitude

variable {numeral : Numeral} {cs : List Char}

theorem foldl_digits_eq (digits : List Nat) (value : Nat) :
    digits.foldl (fun value d => 10 * value + d) value =
      Nat.ofDigits 10 digits.reverse + 10 ^ digits.length * value := by
  induction digits generalizing value with
  | nil => simp
  | cons d digits ih =>
    rw [List.foldl_cons, ih, List.reverse_cons, Nat.ofDigits_append, Nat.ofDigits_singleton,
      List.length_reverse, List.length_cons, Nat.pow_succ]
    ring

theorem positional_eq_magnitude : positional numeral.digits = numeral.magnitude := by
  rw [positional, foldl_digits_eq, Nat.mul_zero, Nat.add_zero, magnitude]

end Numeral

end TableStore
