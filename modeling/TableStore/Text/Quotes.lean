/-! # Quoted text

A quoted text stands between two single quotes or two double quotes.
-/

namespace TableStore.Text

set_option autoImplicit false

def isQuote (c : Char) : Bool :=
  c == '\'' || c == '"'

/-- Takes off one pair of equal quotes around a text, if there is one. -/
def unquoteChars : List Char → List Char
  | [] => []
  | c :: cs => if isQuote c && cs.getLast? == some c then cs.dropLast else c :: cs

def unquote (text : String) : String :=
  String.ofList (unquoteChars text.toList)

end TableStore.Text
