import TableStore.Text.Blank
import TableStore.Text.Digit

/-! # Numerals

An integer is written with an optional sign and decimal digits of any script, where single
underscores may stand between digits, and blanks may stand around the whole.
-/

namespace TableStore.Text

set_option autoImplicit false

/-- The most digits that a numeral may have, leading zeros included. -/
def maxDigits : Nat := 4300

/-- The digits of a numeral without its sign. -/
def digitValues? : List Char → Option (List Nat)
  | [] => none
  | [c] => (digit? c).map fun d => [d]
  | c :: '_' :: cs => do
    let d ← digit? c
    let ds ← digitValues? cs
    return d :: ds
  | c :: cs => do
    let d ← digit? c
    let ds ← digitValues? cs
    return d :: ds

def positional (digits : List Nat) : Nat :=
  digits.foldl (fun value d => 10 * value + d) 0

def natural? (cs : List Char) : Option Nat := do
  let digits ← digitValues? cs
  if digits.length ≤ maxDigits then some (positional digits) else none

def integerChars? : List Char → Option Int
  | '-' :: cs => (natural? cs).map fun n => -(n : Int)
  | '+' :: cs => (natural? cs).map fun n => (n : Int)
  | cs => (natural? cs).map fun n => (n : Int)

def integer? (text : String) : Option Int :=
  integerChars? (stripChars text.toList)

/-- The number of decimal digits of an integer, which is at least one. -/
def digitCount (n : Int) : Nat :=
  (Nat.toDigits 10 n.natAbs).length

end TableStore.Text
