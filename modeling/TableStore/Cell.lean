import TableStore.Text.Numeral

/-! # Cells

A cell holds an integer or a text. A fault is a failure of the store itself: no statement causes
one on a store whose rows fit their columns.
-/

namespace TableStore

open Text

set_option autoImplicit false

inductive Cell where
  | int (value : Int)
  | text (value : String)
deriving DecidableEq

inductive Fault where
  | cellMissing (index : Nat)
  | mixedCells (left right : Cell)
  | numeralTooLong
deriving DecidableEq

def Fault.message : Fault → String
  | cellMissing index => s!"No cell at index {index}"
  | mixedCells _ _ => "Cells of different kinds cannot be compared"
  | numeralTooLong => s!"An integer has more than {maxDigits} digits"

/-- The text of a cell in the answer to a query. -/
def Cell.render : Cell → Except Fault String
  | int value => if digitCount value ≤ maxDigits then .ok (toString value) else .error .numeralTooLong
  | text value => .ok value

end TableStore
