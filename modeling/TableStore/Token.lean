/-! # Tokens

A statement's text is read as a list of tokens. A token has a kind, a value and the position at
which it starts; lines and columns count from one, columns in characters. Characters that start no
token are skipped, so there is no kind for what is unknown.
-/

namespace TableStore

set_option autoImplicit false

structure Position where
  line : Nat
  column : Nat
deriving DecidableEq

def Position.start : Position where
  line := 1
  column := 1

def Position.after (position : Position) (c : Char) : Position :=
  if c == '\n' then ⟨position.line + 1, 1⟩ else ⟨position.line, position.column + 1⟩

def Position.advance (position : Position) (cs : List Char) : Position :=
  cs.foldl Position.after position

inductive TokenKind where
  | keyword
  | identifier
  | string
  | number
  | comparison
  | symbol
deriving DecidableEq

/-- The reserved words. -/
inductive Keyword where
  | create
  | table
  | insert
  | into
  | values
  | select
  | fromTable
  | whereClause
  | orderBy
  | asc
  | desc
  | indexed
deriving DecidableEq

namespace Keyword

def all : List Keyword :=
  [.create, .table, .insert, .into, .values, .select, .fromTable, .whereClause, .orderBy, .asc,
    .desc, .indexed]

theorem mem_all (keyword : Keyword) : keyword ∈ all := by
  cases keyword <;> decide

/-- The one spelling that tokens carry. -/
def word : Keyword → String
  | create => "CREATE"
  | table => "TABLE"
  | insert => "INSERT"
  | into => "INTO"
  | values => "VALUES"
  | select => "SELECT"
  | fromTable => "FROM"
  | whereClause => "WHERE"
  | orderBy => "ORDER_BY"
  | asc => "ASC"
  | desc => "DESC"
  | indexed => "INDEXED"

end Keyword

inductive Symbol where
  | openParen
  | closeParen
  | comma
  | semicolon
  | star
deriving DecidableEq

namespace Symbol

def all : List Symbol :=
  [.openParen, .closeParen, .comma, .semicolon, .star]

def char : Symbol → Char
  | openParen => '('
  | closeParen => ')'
  | comma => ','
  | semicolon => ';'
  | star => '*'

def text (symbol : Symbol) : String :=
  String.singleton symbol.char

end Symbol

/-- The value of a keyword is its one spelling; of any other token it is the text as written. -/
structure Token where
  kind : TokenKind
  value : String
  position : Position
deriving DecidableEq

namespace Token

def isKeyword (token : Token) (keyword : Keyword) : Bool :=
  token.kind == .keyword && token.value == keyword.word

def isSymbol (token : Token) (symbol : Symbol) : Bool :=
  token.kind == .symbol && token.value == symbol.text

def isIdentifier (token : Token) : Bool :=
  token.kind == .identifier

end Token

end TableStore
