import TableStore.Text.CodeRange

/-! # White space

Blanks are the white space characters of Unicode, the information separators among them. A text can
lose the blanks at its ends, or be split at its runs of blanks.
-/

namespace TableStore.Text

set_option autoImplicit false

def blankRanges : List CodeRange :=
  [
    ⟨0x9, 0xD⟩, ⟨0x1C, 0x20⟩, ⟨0x85, 0x85⟩, ⟨0xA0, 0xA0⟩, ⟨0x1680, 0x1680⟩, ⟨0x2000, 0x200A⟩,
    ⟨0x2028, 0x2029⟩, ⟨0x202F, 0x202F⟩, ⟨0x205F, 0x205F⟩, ⟨0x3000, 0x3000⟩
  ]

def isBlank (c : Char) : Bool :=
  inRanges blankRanges c

def stripChars (cs : List Char) : List Char :=
  ((cs.dropWhile isBlank).reverse.dropWhile isBlank).reverse

def strip (text : String) : String :=
  String.ofList (stripChars text.toList)

/-- The maximal runs of characters that are not blank. -/
def pieceChars : List Char → List (List Char)
  | [] => []
  | c :: cs =>
    if isBlank c then pieceChars cs
    else
      match cs, pieceChars cs with
      | next :: _, piece :: pieces =>
        if isBlank next then [c] :: piece :: pieces else (c :: piece) :: pieces
      | _, pieces => [c] :: pieces

def pieces (text : String) : List String :=
  (pieceChars text.toList).map String.ofList

end TableStore.Text
