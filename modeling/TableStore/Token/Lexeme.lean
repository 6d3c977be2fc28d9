import TableStore.Text.Case.Upper
import TableStore.Token.Shape

/-! # Lexemes

A text is the concatenation of its lexemes: blanks, tokens, and single characters that fit no
shape. Tokens are read off the lexemes, and what is skipped can be told from them as well.
-/

namespace TableStore

open Text

set_option autoImplicit false

/-- A piece of a text. It has no shape if it is a stray character. -/
structure Lexeme where
  shape : Option Shape
  text : List Char

/-- Cuts a text into lexemes. The number says how many characters at the front belong to the lexeme
cut last and are passed over. -/
def segmentAfter : Nat → List Char → List Lexeme
  | _, [] => []
  | passed + 1, _ :: cs => segmentAfter passed cs
  | 0, c :: cs =>
    match Shape.front? (c :: cs) with
    | some (shape, length) =>
      ⟨some shape, (c :: cs).take length⟩ :: segmentAfter (length - 1) cs
    | none => ⟨none, [c]⟩ :: segmentAfter 0 cs

theorem flatMap_text_segmentAfter (passed : Nat) (cs : List Char) :
    (segmentAfter passed cs).flatMap Lexeme.text = cs.drop passed := by
  induction cs generalizing passed with
  | nil => cases passed <;> rfl
  | cons c cs ih =>
    cases passed with
    | succ passed => exact ih passed
    | zero =>
      simp only [segmentAfter]
      split
      · next shape length found =>
        obtain ⟨positive, -⟩ := Shape.length_bounds_of_front? found
        obtain ⟨further, rfl⟩ := Nat.exists_eq_succ_of_ne_zero (Nat.ne_of_gt positive)
        simp [ih, List.take_append_drop]
      · simp [ih]

def segment (cs : List Char) : List Lexeme :=
  segmentAfter 0 cs

theorem flatMap_text_segment (cs : List Char) : (segment cs).flatMap Lexeme.text = cs :=
  flatMap_text_segmentAfter 0 cs

/-- Gives each lexeme the position at which it starts. -/
def place : Position → List Lexeme → List (Position × Lexeme)
  | _, [] => []
  | position, lexeme :: lexemes =>
    (position, lexeme) :: place (position.advance lexeme.text) lexemes

def placedLexemes (text : String) : List (Position × Lexeme) :=
  place .start (segment text.toList)

/-- Puts one underscore for each run of blanks. -/
def joinBlanks : List Char → List Char
  | [] => []
  | c :: cs =>
    if isBlank c then
      if cs.head?.any isBlank then joinBlanks cs else '_' :: joinBlanks cs
    else c :: joinBlanks cs

def keywordValue (cs : List Char) : String :=
  String.ofList (joinBlanks (cs.flatMap upperChar))

def Lexeme.token? (position : Position) (lexeme : Lexeme) : Option Token :=
  match lexeme.shape with
  | some .keyword => some ⟨.keyword, keywordValue lexeme.text, position⟩
  | some .name => some ⟨.identifier, String.ofList lexeme.text, position⟩
  | some .comparison => some ⟨.comparison, String.ofList lexeme.text, position⟩
  | some .quoted => some ⟨.string, String.ofList lexeme.text, position⟩
  | some .number => some ⟨.number, String.ofList lexeme.text, position⟩
  | some .symbol => some ⟨.symbol, String.ofList lexeme.text, position⟩
  | some .blank => none
  | none => none

def tokens (text : String) : List Token :=
  (placedLexemes text).filterMap fun (position, lexeme) => lexeme.token? position

/-- The characters that are no part of a token and no blanks, with their positions. -/
def strays (text : String) : List (Position × Char) :=
  (placedLexemes text).filterMap fun (position, lexeme) =>
    match lexeme.shape with
    | none => lexeme.text.head?.map fun c => (position, c)
    | some _ => none

end TableStore
