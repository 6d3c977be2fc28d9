import TableStore.Statement.Reading

/-! # The grammar of statements

A phrase relates the tokens that are written to what they stand for. The phrases below say nothing
of a reader: parts stand side by side, an optional part is there or not, and a list has commas
between its items. A sentence is a phrase that takes up all tokens of a statement.
-/

namespace TableStore

open Text

set_option autoImplicit false

abbrev Phrase (α : Type) : Type :=
  List Token → α → Prop

/-- The value says whether the word is written. -/
inductive OptionalKeyword (word : Keyword) : Phrase Bool
  | absent : OptionalKeyword word [] false
  | present {token : Token} : token.isKeyword word → OptionalKeyword word [token] true

inductive OptionalSemicolon : List Token → Prop
  | absent : OptionalSemicolon []
  | present {token : Token} : token.isSymbol .semicolon → OptionalSemicolon [token]

inductive NamePhrase : Phrase String
  | intro {token : Token} : token.isIdentifier → NamePhrase [token] token.value

/-- Items that each follow a comma. -/
inductive FurtherItems {α : Type} (item : Phrase α) : Phrase (List α)
  | nil : FurtherItems item [] []
  | cons {comma : Token} {tokens rest : List Token} {value : α} {values : List α} :
      comma.isSymbol .comma → item tokens value → FurtherItems item rest values →
      FurtherItems item (comma :: (tokens ++ rest)) (value :: values)

/-- One item, and more of them after commas. -/
inductive CommaSeparated {α : Type} (item : Phrase α) : Phrase (List α)
  | intro {tokens rest : List Token} {value : α} {values : List α} :
      item tokens value → FurtherItems item rest values →
      CommaSeparated item (tokens ++ rest) (value :: values)

inductive ColumnPhrase : Phrase Column
  | intro {name type : Token} {flag : List Token} {indexed : Bool} :
      name.isIdentifier → type.isIdentifier → OptionalKeyword .indexed flag indexed →
      ColumnPhrase (name :: type :: flag)
        { name := name.value, type := .ofName type.value, indexed }

/-- Any tokens but a closing parenthesis. Strings and numbers are values, the others are not. -/
inductive ValuesPhrase : Phrase (List Literal)
  | nil : ValuesPhrase [] []
  | string {token : Token} {tokens : List Token} {literals : List Literal} :
      token.kind = .string → ValuesPhrase tokens literals →
      ValuesPhrase (token :: tokens) (⟨.string, unquote token.value⟩ :: literals)
  | number {token : Token} {tokens : List Token} {literals : List Literal} :
      token.kind = .number → ValuesPhrase tokens literals →
      ValuesPhrase (token :: tokens) (⟨.number, unquote token.value⟩ :: literals)
  | other {token : Token} {tokens : List Token} {literals : List Literal} :
      token.kind ≠ .string → token.kind ≠ .number → ¬token.isSymbol .closeParen →
      ValuesPhrase tokens literals → ValuesPhrase (token :: tokens) literals

inductive ProjectionPhrase : Phrase Projection
  | all {token : Token} : token.isSymbol .star → ProjectionPhrase [token] .all
  | columns {tokens : List Token} {names : List String} :
      CommaSeparated NamePhrase tokens names → ProjectionPhrase tokens (.columns names)

/-- The word WHERE and at least one token after it. -/
inductive ConditionPhrase : Phrase (Option String)
  | absent : ConditionPhrase [] none
  | present {word : Token} {parts : List Token} :
      word.isKeyword .whereClause → parts ≠ [] →
      (∀ part ∈ parts, ¬part.isKeyword .orderBy ∧ ¬part.isSymbol .semicolon) →
      ConditionPhrase (word :: parts) (some (" ".intercalate (parts.map Token.value)))

inductive DirectionPhrase : Phrase Direction
  | absent : DirectionPhrase [] .ascending
  | ascending {token : Token} : token.isKeyword .asc → DirectionPhrase [token] .ascending
  | descending {token : Token} : token.isKeyword .desc → DirectionPhrase [token] .descending

inductive OrderItemPhrase : Phrase OrderItem
  | intro {name : Token} {tokens : List Token} {direction : Direction} :
      name.isIdentifier → DirectionPhrase tokens direction →
      OrderItemPhrase (name :: tokens) { column := name.value, direction }

inductive OrderPhrase : Phrase (List OrderItem)
  | absent : OrderPhrase [] []
  | present {word : Token} {tokens : List Token} {items : List OrderItem} :
      word.isKeyword .orderBy → CommaSeparated OrderItemPhrase tokens items →
      OrderPhrase (word :: tokens) items

namespace Statement

/-- The three forms of a statement, from the first token to the last. -/
inductive Sentence : Form → Phrase Statement
  | create {word name openParen closeParen : Token} {table columnTokens last : List Token}
      {given : Bool} {columns : List Column} :
      word.isKeyword .create → OptionalKeyword .table table given → name.isIdentifier →
      openParen.isSymbol .openParen → CommaSeparated ColumnPhrase columnTokens columns →
      closeParen.isSymbol .closeParen → OptionalSemicolon last →
      Sentence .create
        (word :: (table ++ name :: openParen :: (columnTokens ++ closeParen :: last)))
        (.create name.value columns)
  | insert {word into name openParen closeParen : Token} {values valueTokens last : List Token}
      {given : Bool} {literals : List Literal} :
      word.isKeyword .insert → into.isKeyword .into → name.isIdentifier →
      OptionalKeyword .values values given → openParen.isSymbol .openParen →
      ValuesPhrase valueTokens literals → closeParen.isSymbol .closeParen →
      OptionalSemicolon last →
      Sentence .insert
        (word :: into :: name :: (values ++ openParen :: (valueTokens ++ closeParen :: last)))
        (.insert name.value literals)
  | select {word fromWord name : Token} {projectionTokens conditionTokens orderTokens : List Token}
      {last : List Token} {projection : Projection} {condition : Option String}
      {order : List OrderItem} :
      word.isKeyword .select → ProjectionPhrase projectionTokens projection →
      fromWord.isKeyword .fromTable → name.isIdentifier →
      ConditionPhrase conditionTokens condition → OrderPhrase orderTokens order →
      OptionalSemicolon last →
      Sentence .select
        (word :: (projectionTokens ++ fromWord :: name ::
          (conditionTokens ++ (orderTokens ++ last))))
        (.select { table := name.value, projection, condition, order })

end Statement

end TableStore
