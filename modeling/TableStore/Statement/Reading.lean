import TableStore.Statement
import TableStore.Text.Quotes
import TableStore.Token.Lexeme
import TableStore.Token.Reader

/-! # Reading statements

The three forms, each with an optional semicolon at its end:

* CREATE [TABLE] name (column type [INDEXED], ...)
* INSERT INTO name [VALUES] (value, ...)
* SELECT * or columns FROM name [WHERE condition] [ORDER BY column [ASC or DESC], ...]

Between the parentheses of an insertion only strings and numbers count. A condition is any tokens up
to ORDER BY or a semicolon.
-/

namespace TableStore

open Text TokenReader

set_option autoImplicit false

/-- A semicolon may follow a statement, and nothing else. -/
def endOfStatement : TokenReader Unit := do
  let _ ← acceptSymbol .semicolon
  match ← get with
  | [] => return
  | token :: _ => throw (.trailing token.value token.position)

def readColumn : TokenReader Column := do
  let name ← identifier .columnName
  let declared ← identifier (.columnType name)
  let indexed ← acceptKeyword .indexed
  return { name, type := .ofName declared, indexed }

theorem readColumn_shortens : Shortens readColumn :=
  (identifier_shortens _).bind fun _ => (identifier_shortens _).keeps.bind fun _ =>
    (acceptKeyword_keeps _).bind fun _ => pure_keeps _

def columnItem : ItemReader Column where
  read := readColumn
  shortens := readColumn_shortens

def readCreate : TokenReader Statement := do
  keyword .create .create
  let _ ← acceptKeyword .table
  let table ← identifier .createdTable
  symbol .openParen .openColumns
  let columns ← columnItem.list
  symbol .closeParen .closeColumns
  endOfStatement
  return .create table columns

def Literal.ofToken? (token : Token) : Option Literal :=
  match token.kind with
  | .string => some ⟨.string, unquote token.value⟩
  | .number => some ⟨.number, unquote token.value⟩
  | _ => none

/-- An insertion up to its opening parenthesis: the table. -/
def readInsertHead : TokenReader String := do
  keyword .insert .insert
  keyword .into .into
  let table ← identifier .insertedTable
  let _ ← acceptKeyword .values
  symbol .openParen .openValues
  return table

/-- The tokens up to the first closing parenthesis. -/
def readValueTokens : TokenReader (List Token) := do
  let values ← takeWhile (!·.isSymbol .closeParen)
  symbol .closeParen .closeValues
  return values

def readInsert : TokenReader Statement := do
  let table ← readInsertHead
  let values ← readValueTokens
  endOfStatement
  return .insert table (values.filterMap Literal.ofToken?)

/-- The tokens between the parentheses of an insertion that are neither values nor commas. -/
def ignoredValues (tokens : List Token) : List Token :=
  match readInsertHead tokens with
  | .error _ => []
  | .ok (_, rest) =>
    (rest.takeWhile (!·.isSymbol .closeParen)).filter fun token =>
      (Literal.ofToken? token).isNone && !token.isSymbol .comma

def nextColumnItem : ItemReader String where
  read := identifier .nextColumn
  shortens := identifier_shortens _

def readProjection : TokenReader Projection := do
  if ← acceptSymbol .star then return .all
  let name ← identifier .selectedColumn
  let names ← nextColumnItem.further
  return .columns (name :: names)

def endsCondition (token : Token) : Bool :=
  token.isKeyword .orderBy || token.isSymbol .semicolon

def readCondition : TokenReader (Option String) := do
  match ← accept? (·.isKeyword .whereClause) with
  | none => return none
  | some word =>
    match ← takeWhile (!endsCondition ·) with
    | [] => throw (.emptyCondition word.position)
    | parts => return some (" ".intercalate (parts.map Token.value))

def readDirection : TokenReader Direction := do
  if ← acceptKeyword .desc then return .descending
  let _ ← acceptKeyword .asc
  return .ascending

def readOrderItem : TokenReader OrderItem := do
  let column ← identifier .orderColumn
  let direction ← readDirection
  return { column, direction }

theorem readDirection_keeps : Keeps readDirection :=
  (acceptKeyword_keeps _).bind fun
    | true => pure_keeps _
    | false => (acceptKeyword_keeps _).bind fun _ => pure_keeps _

def orderItem : ItemReader OrderItem where
  read := readOrderItem
  shortens := (identifier_shortens _).bind fun _ => readDirection_keeps.bind fun _ => pure_keeps _

def readOrder : TokenReader (List OrderItem) := do
  if ← acceptKeyword .orderBy then orderItem.list else return []

def readSelect : TokenReader Statement := do
  keyword .select .select
  let projection ← readProjection
  keyword .fromTable .fromTable
  let table ← identifier .queriedTable
  let condition ← readCondition
  let order ← readOrder
  endOfStatement
  return .select { table, projection, condition, order }

namespace Statement

/-- The forms of a statement. -/
inductive Form where
  | create
  | insert
  | select
deriving DecidableEq

def Form.reader : Form → TokenReader Statement
  | .create => readCreate
  | .insert => readInsert
  | .select => readSelect

/-- Reads a statement of the given form that takes up all tokens. -/
def ofTokens (form : Form) (tokens : List Token) : Except SyntaxError Statement :=
  (form.reader tokens).map Prod.fst

/-- The form that a first token announces. -/
def form? (token : Token) : Option Form :=
  if token.isKeyword .create then some .create
  else if token.isKeyword .insert then some .insert
  else if token.isKeyword .select then some .select
  else none

def ofAnyTokens : List Token → Except SyntaxError Statement
  | [] => .error .noInput
  | token :: tokens =>
    match form? token with
    | none => .error (.unknownCommand token.position)
    | some form => ofTokens form (token :: tokens)

def ofText (text : String) : Except SyntaxError Statement :=
  ofAnyTokens (tokens text)

end Statement

end TableStore
