import TableStore.Text.Blank
import TableStore.Text.Digit
import TableStore.Text.Quotes
import TableStore.Text.Word
import TableStore.Token

/-! # Shapes of lexemes

Each shape says how many characters at the front of a text belong to it, if any do. The shapes are
tried in one order and the first that fits is taken, so a reserved word is never a name.
-/

namespace TableStore

open Text

set_option autoImplicit false

inductive Shape where
  | blank
  | keyword
  | name
  | comparison
  | quoted
  | number
  | symbol
deriving DecidableEq

/-- The length of the longest run of such characters at the front, unless it is empty. -/
def runLength? (accept : Char → Bool) (cs : List Char) : Option Nat :=
  match (cs.takeWhile accept).length with
  | 0 => none
  | length + 1 => some (length + 1)

/-- Letters that stand for a capital when case is ignored. The letter I has a dotted capital and a
dotless small form besides, and S the long small form. -/
def matchesCapital (capital c : Char) : Bool :=
  c == capital || c == capital.toLower
    || capital == 'I' && (c == 'İ' || c == 'ı')
    || capital == 'S' && c == 'ſ'

/-- Does the text start with the word, when case is ignored? -/
def startsWithWord : List Char → List Char → Bool
  | [], _ => true
  | _ :: _, [] => false
  | capital :: word, c :: cs => matchesCapital capital c && startsWithWord word cs

/-- No letter, number or underscore follows. -/
def atWordEnd : List Char → Bool
  | [] => true
  | c :: _ => !isWord c

def wordLength? (word cs : List Char) : Option Nat :=
  if startsWithWord word cs && atWordEnd (cs.drop word.length) then some word.length else none

/-- The two words of ORDER BY with blanks between them. -/
def orderByLength? (cs : List Char) : Option Nat :=
  if startsWithWord ['O', 'R', 'D', 'E', 'R'] cs then do
    let gap ← runLength? isBlank (cs.drop 5)
    let rest ← wordLength? ['B', 'Y'] (cs.drop (5 + gap))
    return 5 + gap + rest
  else none

def keywordLength? (cs : List Char) : Option Nat :=
  (orderByLength? cs).or (Keyword.all.findSome? fun keyword => wordLength? keyword.word.toList cs)

def isNameStart (c : Char) : Bool :=
  c.isAlpha || c == '_'

def isNameRest (c : Char) : Bool :=
  c.isAlphanum || c == '_'

/-- Names are made of ASCII letters, digits and underscores, without a digit in front. -/
def nameLength? : List Char → Option Nat
  | [] => none
  | c :: cs => if isNameStart c then some ((cs.takeWhile isNameRest).length + 1) else none

def isComparison (c : Char) : Bool :=
  c == '=' || c == '<' || c == '>'

def isSymbolChar (c : Char) : Bool :=
  Symbol.all.any (·.char == c)

def charLength? (accept : Char → Bool) : List Char → Option Nat
  | [] => none
  | c :: _ => if accept c then some 1 else none

/-- A quote, anything but that quote, and the quote again. -/
def quotedLength? : List Char → Option Nat
  | [] => none
  | c :: cs =>
    if isQuote c && cs.contains c then some ((cs.takeWhile (· != c)).length + 2) else none

def numberLength? : List Char → Option Nat
  | '-' :: cs => (runLength? isDigit cs).map (· + 1)
  | cs => runLength? isDigit cs

namespace Shape

/-- All shapes, in the order in which they are tried. -/
def all : List Shape :=
  [.blank, .keyword, .name, .comparison, .quoted, .number, .symbol]

def length? : Shape → List Char → Option Nat
  | blank => runLength? isBlank
  | keyword => keywordLength?
  | name => nameLength?
  | comparison => charLength? isComparison
  | quoted => quotedLength?
  | number => numberLength?
  | symbol => charLength? isSymbolChar

/-- The characters of a match are there: at least one, and not more than the text has. -/
def Measures (length? : List Char → Option Nat) : Prop :=
  ∀ cs length, length? cs = some length → 0 < length ∧ length ≤ cs.length

theorem runLength?_measures (accept : Char → Bool) : Measures (runLength? accept) := by
  intro cs length h
  have bound := (List.takeWhile_sublist (l := cs) accept).length_le
  simp only [runLength?] at h
  split at h
  · cases h
  · cases h
    omega

theorem length_le_of_startsWithWord {word cs : List Char} (h : startsWithWord word cs = true) :
    word.length ≤ cs.length := by
  induction word generalizing cs with
  | nil => exact Nat.zero_le _
  | cons capital word ih =>
    cases cs with
    | nil => cases h
    | cons c cs =>
      simp only [startsWithWord, Bool.and_eq_true] at h
      exact Nat.succ_le_succ (ih h.2)

theorem wordLength?_eq_some {word cs : List Char} {length : Nat}
    (h : wordLength? word cs = some length) : length = word.length ∧ length ≤ cs.length := by
  simp only [wordLength?] at h
  split at h
  · next fits =>
    cases h
    simp only [Bool.and_eq_true] at fits
    exact ⟨rfl, length_le_of_startsWithWord fits.1⟩
  · cases h

theorem keywordLength?_measures : Measures keywordLength? := by
  intro cs length h
  simp only [keywordLength?, Option.or_eq_some_iff] at h
  rcases h with h | ⟨-, h⟩
  · simp only [orderByLength?] at h
    split at h
    · obtain ⟨gap, found, h⟩ := Option.bind_eq_some_iff.mp h
      obtain ⟨rest, last, h⟩ := Option.bind_eq_some_iff.mp h
      cases h
      have inside := (wordLength?_eq_some last).2
      have positive := (runLength?_measures _ _ _ found).1
      have bound := (runLength?_measures _ _ _ found).2
      simp only [List.length_drop] at inside bound
      omega
    · cases h
  · obtain ⟨keyword, -, found⟩ := List.exists_of_findSome?_eq_some h
    obtain ⟨rfl, bound⟩ := wordLength?_eq_some found
    exact ⟨by cases keyword <;> decide, bound⟩

theorem charLength?_measures (accept : Char → Bool) : Measures (charLength? accept) := by
  intro cs length h
  cases cs with
  | nil => cases h
  | cons c cs =>
    simp only [charLength?] at h
    split at h <;> cases h
    simp

theorem nameLength?_measures : Measures nameLength? := by
  intro cs length h
  cases cs with
  | nil => cases h
  | cons c cs =>
    have bound := (List.takeWhile_sublist (l := cs) isNameRest).length_le
    simp only [nameLength?] at h
    split at h <;> cases h
    simp only [List.length_cons]
    omega

theorem length_takeWhile_lt {c : Char} {cs : List Char} (h : c ∈ cs) :
    (cs.takeWhile (· != c)).length < cs.length := by
  induction cs with
  | nil => cases h
  | cons first cs ih =>
    by_cases same : first = c
    · simp [same]
    · have : c ∈ cs := (List.mem_cons.mp h).resolve_left (Ne.symm same)
      simp [same, ih this]

theorem quotedLength?_measures : Measures quotedLength? := by
  intro cs length h
  cases cs with
  | nil => cases h
  | cons c cs =>
    simp only [quotedLength?] at h
    split at h
    · next fits =>
      cases h
      simp only [Bool.and_eq_true, List.contains_iff_mem] at fits
      have bound := length_takeWhile_lt fits.2
      simp only [List.length_cons]
      omega
    · cases h

theorem numberLength?_measures : Measures numberLength? := by
  intro cs length h
  unfold numberLength? at h
  split at h
  · next cs =>
    obtain ⟨digits, found, rfl⟩ := Option.map_eq_some_iff.mp h
    have bound := (runLength?_measures _ _ _ found).2
    simp only [List.length_cons]
    omega
  · exact runLength?_measures _ _ _ h

theorem length?_measures (shape : Shape) : Measures shape.length? := by
  cases shape
  · exact runLength?_measures _
  · exact keywordLength?_measures
  · exact nameLength?_measures
  · exact charLength?_measures _
  · exact quotedLength?_measures
  · exact numberLength?_measures
  · exact charLength?_measures _

/-- The shape of the lexeme at the front of a text, with its length. -/
def front? (cs : List Char) : Option (Shape × Nat) :=
  all.findSome? fun shape => (shape.length? cs).map fun length => (shape, length)

theorem length_bounds_of_front? {cs : List Char} {shape : Shape} {length : Nat}
    (h : front? cs = some (shape, length)) : 0 < length ∧ length ≤ cs.length := by
  obtain ⟨found, -, h⟩ := List.exists_of_findSome?_eq_some h
  obtain ⟨_, measured, same⟩ := Option.map_eq_some_iff.mp h
  cases same
  exact length?_measures _ _ _ measured

end Shape

end TableStore
