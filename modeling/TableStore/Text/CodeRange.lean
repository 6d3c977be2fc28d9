/-! # Ranges of code points

Character classes are kept as increasing lists of closed ranges of code points.
-/

namespace TableStore.Text

set_option autoImplicit false

structure CodeRange where
  first : Nat
  last : Nat

def CodeRange.has (range : CodeRange) (code : Nat) : Bool :=
  range.first ≤ code && code ≤ range.last

def inRanges (ranges : List CodeRange) (c : Char) : Bool :=
  ranges.any (·.has c.toNat)

theorem inRanges_iff (ranges : List CodeRange) (c : Char) :
    inRanges ranges c = true ↔ ∃ range ∈ ranges, range.first ≤ c.toNat ∧ c.toNat ≤ range.last := by
  simp [inRanges, CodeRange.has]

end TableStore.Text
