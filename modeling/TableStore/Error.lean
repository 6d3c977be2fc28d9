import TableStore.ColumnType
import TableStore.SyntaxError

/-! # Errors

An error is the reason why a statement cannot be read or carried out. Its kind says at which of the
checks the statement failed.
-/

namespace TableStore

open Text

set_option autoImplicit false

inductive Error where
  | malformed (error : SyntaxError)
  | tableNotFound (table : String)
  | tableExists (table : String)
  | repeatedColumn (column : String)
  | valueCount (table : String) (values columns : Nat)
  | wrongType (table column : String) (type : ColumnType) (literal : String)
  | columnNotFound (table column : String)
  | unsupportedComparison (operator : String)
  | invalidInteger (literal : String)
  | unsupportedStatement (kind : String)
deriving DecidableEq

inductive ErrorKind where
  | syntactic
  | endOfStatement
  | execution
  | typeMismatch
  | constraint
deriving DecidableEq

namespace Error

def kind : Error → ErrorKind
  | malformed (.unexpectedEnd _) => .endOfStatement
  | malformed _ => .syntactic
  | tableNotFound _ => .execution
  | tableExists _ => .execution
  | repeatedColumn _ => .constraint
  | valueCount _ _ _ => .constraint
  | wrongType _ _ _ _ => .typeMismatch
  | columnNotFound _ _ => .execution
  | unsupportedComparison _ => .execution
  | invalidInteger _ => .typeMismatch
  | unsupportedStatement _ => .execution

def message : Error → String
  | malformed error => error.message
  | tableNotFound table => s!"Table not found: {table}"
  | tableExists table => s!"Table already exists: {table}"
  | repeatedColumn column => s!"Duplicate column name in CREATE TABLE: {column}"
  | valueCount table values columns =>
    s!"The number of values ({values}) does not match the number of columns ({columns}) in {table}"
  | wrongType table column type literal =>
    s!"Type error: {table}.{column} expects {type.name}, got {escaped literal}"
  | columnNotFound table column => s!"Column not found: {table}.{column}"
  | unsupportedComparison operator => s!"Unsupported operator in WHERE: {operator}"
  | invalidInteger literal => s!"Invalid integer literal: {escaped literal}"
  | unsupportedStatement kind => s!"Unsupported statement: {kind}"

end Error

/-- Why a statement has no answer. -/
inductive Failure where
  | error (error : Error)
  | fault (fault : Fault)
deriving DecidableEq

end TableStore
