import TableStore.Statement
import TableStore.Text.Escaped

/-! # Statements as records

The log shows a statement as a record: its kind, and its fields by name in parentheses.
-/

namespace TableStore

open Text

set_option autoImplicit false

/-- Parts in parentheses. A single part is followed by a comma. -/
def tupleText : List String → String
  | [part] => s!"({part},)"
  | parts => "(" ++ ", ".intercalate parts ++ ")"

def recordText (kind : String) (fields : List (String × String)) : String :=
  kind ++ "(" ++ ", ".intercalate (fields.map fun (name, value) => s!"{name}={value}") ++ ")"

def ColumnType.record : ColumnType → String
  | int name => recordText "IntType" [("name", escaped name)]
  | text name => recordText "TextType" [("name", escaped name)]

def Column.record (column : Column) : String :=
  recordText "ColumnDef"
    [("name", escaped column.name), ("typ", column.type.record),
      ("indexed", if column.indexed then "True" else "False")]

def LiteralKind.record : LiteralKind → String
  | string => "<TokenKind.STRING: 3>"
  | number => "<TokenKind.NUMBER: 4>"

def Literal.record (literal : Literal) : String :=
  recordText "Literal" [("kind", literal.kind.record), ("text", escaped literal.text)]

def Direction.word : Direction → String
  | ascending => "ASC"
  | descending => "DESC"

def OrderItem.record (item : OrderItem) : String :=
  let direction := item.direction.word
  recordText "OrderBy"
    [("column", escaped item.column), ("direction", s!"<Direction.{direction}: '{direction}'>")]

def Projection.record : Projection → String
  | all => tupleText [escaped "*"]
  | columns names => tupleText (names.map escaped)

def orderRecord (order : List OrderItem) : String :=
  tupleText (order.map OrderItem.record)

def Statement.record : Statement → String
  | create table columns =>
    recordText "CreateTable"
      [("table_name", escaped table), ("columns", tupleText (columns.map Column.record))]
  | insert table values =>
    recordText "Insert"
      [("table_name", escaped table), ("values", tupleText (values.map Literal.record))]
  | select query =>
    recordText "Select"
      [("table_name", escaped query.table), ("columns", query.projection.record),
        ("where", escaped (query.condition.getD "")), ("order_by", orderRecord query.order)]
  | other kind => recordText kind []

end TableStore
