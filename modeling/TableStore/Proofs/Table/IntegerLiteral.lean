import TableStore.Proofs.Token.Number

/-! # Integer literals

An integer column reads a literal exactly if, but for blanks at its ends, it is a sign or none and then
decimal digits of any script, not too many, with underscores standing alone between some of them. It
reads the integer that the sign and the digits denote, so underscores, scripts, blanks and leading zeros
make no difference.
-/

namespace TableStore

open Text

set_option autoImplicit false

namespace Numeral

/-- At least one digit, and not too many. -/
def Readable (numeral : Numeral) : Prop :=
  1 ≤ numeral.digits.length ∧ numeral.digits.length ≤ maxDigits

/-- The ways to write a sign. -/
def signs (negative : Bool) : List (List Char) :=
  if negative then [['-']] else [[], ['+']]

/-- The characters are a sign and then the digits, with underscores among them. -/
def SpelledAs (numeral : Numeral) (cs : List Char) : Prop :=
  ∃ sign figures, cs = sign ++ figures ∧ sign ∈ signs numeral.negative ∧ IsFigures figures ∧
    figures.filterMap digit? = numeral.digits

/-- The numeral stands between blanks. -/
def StandsIn (numeral : Numeral) (cs : List Char) : Prop :=
  ∃ before word after, cs = before ++ (word ++ after) ∧ numeral.SpelledAs word ∧
    (∀ c ∈ before, isBlank c = true) ∧ ∀ c ∈ after, isBlank c = true

/-- The digits from the first one on that is not zero. -/
def significant (numeral : Numeral) : List Nat :=
  numeral.digits.dropWhile (· == 0)

variable {numeral other : Numeral} {cs sign figures : List Char} {negative : Bool}

theorem natural?_eq_some_iff (negative : Bool) {n : Nat} :
    natural? figures = some n ↔ IsFigures figures ∧
      (mk negative (figures.filterMap digit?)).Readable ∧
      (mk negative (figures.filterMap digit?)).magnitude = n := by
  simp only [natural?, Option.bind_eq_bind, Option.bind_eq_some_iff, digitValues?_eq_some_iff,
    ← positional_eq_magnitude, Readable]
  constructor
  · rintro ⟨digits, ⟨hNonempty, hFigures, rfl⟩, hSome⟩
    split at hSome
    · next hLength =>
      exact ⟨hFigures, ⟨hFigures.length_pos_iff.mpr hNonempty, hLength⟩, Option.some.inj hSome⟩
    · cases hSome
  · rintro ⟨hFigures, ⟨hPositive, hLength⟩, rfl⟩
    exact ⟨_, ⟨hFigures.length_pos_iff.mp hPositive, hFigures, rfl⟩, if_pos hLength⟩

/-- Without a sign the first character must not be taken for one. -/
theorem integerChars?_append (hSign : sign ∈ signs negative)
    (hHead : sign = [] → figures.head? ≠ some '-' ∧ figures.head? ≠ some '+') :
    integerChars? (sign ++ figures) =
      Option.map (fun n : Nat => if negative then -(n : Int) else n) (natural? figures) := by
  cases negative with
  | true =>
    obtain rfl := List.mem_singleton.mp hSign
    rw [List.singleton_append, integerChars?]
    cases natural? figures <;> rfl
  | false =>
    have hSigns : sign = [] ∨ sign = ['+'] := by simpa [signs] using hSign
    rcases hSigns with rfl | rfl
    · obtain ⟨hMinus, hPlus⟩ := hHead rfl
      rw [List.nil_append, integerChars?_unsigned hMinus hPlus]
      rfl
    · rw [List.singleton_append, integerChars?]
      cases natural? figures <;> rfl

theorem exists_sign (cs : List Char) :
    ∃ negative sign figures, cs = sign ++ figures ∧ sign ∈ signs negative ∧
      (sign = [] → figures.head? ≠ some '-' ∧ figures.head? ≠ some '+') := by
  by_cases hMinus : cs.head? = some '-'
  · obtain ⟨figures, rfl⟩ := List.head?_eq_some_iff.mp hMinus
    exact ⟨true, ['-'], figures, rfl, by simp [signs], nofun⟩
  · by_cases hPlus : cs.head? = some '+'
    · obtain ⟨figures, rfl⟩ := List.head?_eq_some_iff.mp hPlus
      exact ⟨false, ['+'], figures, rfl, by simp [signs], nofun⟩
    · exact ⟨false, [], cs, rfl, by simp [signs], fun _ => ⟨hMinus, hPlus⟩⟩

theorem integerChars?_eq_some_iff {value : Int} :
    integerChars? cs = some value ↔
      ∃ numeral : Numeral, numeral.SpelledAs cs ∧ numeral.Readable ∧ numeral.value = value := by
  constructor
  · intro h
    obtain ⟨negative, sign, figures, rfl, hSign, hHead⟩ := exists_sign cs
    rw [integerChars?_append hSign hHead] at h
    obtain ⟨n, hNatural, rfl⟩ := Option.map_eq_some_iff.mp h
    obtain ⟨hFigures, hReadable, rfl⟩ := (natural?_eq_some_iff negative).mp hNatural
    exact ⟨_, ⟨sign, figures, rfl, hSign, hFigures, rfl⟩, hReadable, rfl⟩
  · rintro ⟨⟨negative, digits⟩, ⟨sign, figures, rfl, hSign, hFigures, rfl⟩, hReadable, rfl⟩
    have hNatural := (natural?_eq_some_iff negative).mpr ⟨hFigures, hReadable, rfl⟩
    have hHead : ∀ c, figures.head? = some c → isDigit c = true := by
      intro c hFirst
      obtain ⟨rest, rfl⟩ := List.head?_eq_some_iff.mp hFirst
      exact hFigures.isDigit_head
    have hUnsigned : figures.head? ≠ some '-' ∧ figures.head? ≠ some '+' :=
      ⟨head?_ne hHead (by decide), head?_ne hHead (by decide)⟩
    rw [integerChars?_append hSign fun _ => hUnsigned, hNatural]
    rfl

theorem SpelledAs.isBlank_eq_false (h : numeral.SpelledAs cs) : ∀ c ∈ cs, isBlank c = false := by
  obtain ⟨sign, figures, rfl, hSign, hFigures, -⟩ := h
  have hSigns : ∀ negative, ∀ sign ∈ signs negative, ∀ c ∈ sign, isBlank c = false := by
    rintro (_ | _) <;> simp only [signs, Bool.false_eq_true, if_true, if_false, List.forall_mem_cons]
    · exact ⟨List.forall_mem_nil _, ⟨by decide, List.forall_mem_nil _⟩, List.forall_mem_nil _⟩
    · exact ⟨⟨by decide, List.forall_mem_nil _⟩, List.forall_mem_nil _⟩
  intro c hc
  rcases List.mem_append.mp hc with hc | hc
  · exact hSigns _ sign hSign c hc
  · rcases hFigures.digit_or_underscore c hc with hDigit | rfl
    · exact isBlank_eq_false_of_isDigit hDigit
    · decide

theorem SpelledAs.ne_nil (h : numeral.SpelledAs cs) (hReadable : numeral.Readable) : cs ≠ [] := by
  obtain ⟨sign, figures, rfl, -, hFigures, hDigits⟩ := h
  rw [Readable, ← hDigits] at hReadable
  exact List.append_ne_nil_of_right_ne_nil _ (hFigures.length_pos_iff.mp hReadable.1)

theorem integer?_eq_some_iff {text : String} {value : Int} :
    integer? text = some value ↔
      ∃ numeral : Numeral, numeral.StandsIn text.toList ∧ numeral.Readable ∧ numeral.value = value := by
  rw [integer?, integerChars?_eq_some_iff]
  constructor
  · rintro ⟨numeral, hWord, hReadable, hValue⟩
    obtain ⟨before, after, hText, hBefore, hAfter⟩ := exists_eq_append_stripChars text.toList
    exact ⟨numeral, ⟨before, _, after, hText, hWord, hBefore, hAfter⟩, hReadable, hValue⟩
  · rintro ⟨numeral, ⟨before, word, after, hText, hWord, hBefore, hAfter⟩, hReadable, hValue⟩
    refine ⟨numeral, ?_, hReadable, hValue⟩
    rwa [hText, stripChars_append hBefore (hWord.ne_nil hReadable) hWord.isBlank_eq_false hAfter]

theorem ofDigits_dropWhile_zero (digits : List Nat) :
    Nat.ofDigits 10 (digits.dropWhile (· == 0)).reverse = Nat.ofDigits 10 digits.reverse := by
  induction digits with
  | nil => rfl
  | cons d digits ih =>
    cases d with
    | zero =>
      rw [List.dropWhile_cons_of_pos rfl, ih, List.reverse_cons, Nat.ofDigits_append_zero]
    | succ d => rw [List.dropWhile_cons_of_neg (by simp)]

theorem value_congr (hSign : numeral.negative = other.negative)
    (hDigits : numeral.significant = other.significant) : numeral.value = other.value := by
  have hMagnitude : numeral.magnitude = other.magnitude := by
    rw [magnitude, magnitude, ← ofDigits_dropWhile_zero numeral.digits,
      ← ofDigits_dropWhile_zero other.digits]
    exact congrArg (fun digits => Nat.ofDigits 10 (List.reverse digits)) hDigits
  rw [value, value, hSign, hMagnitude]

end Numeral

namespace ColumnType

theorem read_int_eq_ok_iff (type : String) {text : String} {cell : Cell} :
    (int type).read text = .ok cell ↔
      ∃ numeral : Numeral, numeral.StandsIn text.toList ∧ numeral.Readable ∧
        cell = .int numeral.value := by
  have hRead : (int type).read text = .ok cell ↔
      ∃ value, integer? text = some value ∧ cell = .int value := by
    rw [read, read?]
    cases integer? text <;> simp [eq_comm]
  rw [hRead]
  constructor
  · rintro ⟨value, hInteger, rfl⟩
    obtain ⟨numeral, hStands, hReadable, rfl⟩ := Numeral.integer?_eq_some_iff.mp hInteger
    exact ⟨numeral, hStands, hReadable, rfl⟩
  · rintro ⟨numeral, hStands, hReadable, rfl⟩
    exact ⟨_, Numeral.integer?_eq_some_iff.mpr ⟨numeral, hStands, hReadable, rfl⟩, rfl⟩

theorem eq_invalidInteger_of_read_int {type text : String} {error : Error}
    (h : (int type).read text = .error error) : error = .invalidInteger text := by
  rw [read] at h
  split at h
  · cases h
    rfl
  · cases h

/-- A literal is read exactly if a numeral with at least one digit and not too many stands in it, and then
as the value of the numeral; any other is of the wrong type. Literals that differ only in blanks,
underscores, scripts and leading zeros are read as the same integer. -/
theorem integer_literals_are_numerals (type text : String) :
    (∀ cell, (int type).read text = .ok cell ↔
        ∃ numeral : Numeral, numeral.StandsIn text.toList ∧ numeral.Readable ∧
          cell = .int numeral.value) ∧
      ((¬∃ numeral : Numeral, numeral.StandsIn text.toList ∧ numeral.Readable) →
        (int type).read text = .error (.invalidInteger text) ∧
          (Error.invalidInteger text).kind = .typeMismatch) ∧
      ∀ (other : String) (numeral otherNumeral : Numeral), numeral.StandsIn text.toList →
        otherNumeral.StandsIn other.toList → numeral.Readable → otherNumeral.Readable →
        numeral.negative = otherNumeral.negative → numeral.significant = otherNumeral.significant →
        (int type).read text = (int type).read other := by
  refine ⟨fun cell => read_int_eq_ok_iff type, ?_, ?_⟩
  · intro hNone
    refine ⟨?_, rfl⟩
    cases hRead : (int type).read text with
    | ok cell =>
      obtain ⟨numeral, hStands, hReadable, -⟩ := (read_int_eq_ok_iff type).mp hRead
      exact absurd ⟨numeral, hStands, hReadable⟩ hNone
    | error error => rw [eq_invalidInteger_of_read_int hRead]
  · intro other numeral otherNumeral hText hOther hReadable hOtherReadable hSign hDigits
    have hRead := (read_int_eq_ok_iff type).mpr ⟨numeral, hText, hReadable, rfl⟩
    have hOtherRead := (read_int_eq_ok_iff type).mpr ⟨otherNumeral, hOther, hOtherReadable, rfl⟩
    rw [hRead, hOtherRead, Numeral.value_congr hSign hDigits]

theorem integer_literal_of_mixed_scripts :
    (int "INT").read "\t-0٤_2 " = .ok (.int (-42)) ∧
      (int "INT").read "\t-0٤_2 " = (int "INT").read "-42" := by
  obtain ⟨hRead, -, hSame⟩ := integer_literals_are_numerals "INT" "\t-0٤_2 "
  have hMixed : IsFigures ['0', '٤', '_', '2'] :=
    (IsFigures.cons_iff (by decide)).mpr ⟨by decide,
      IsFigures.cons_underscore_iff.mpr ⟨by decide, by decide, IsFigures.singleton_iff.mpr (by decide)⟩⟩
  have hStands : (⟨true, [0, 4, 2]⟩ : Numeral).StandsIn "\t-0٤_2 ".toList :=
    ⟨['\t'], _, [' '], rfl, ⟨['-'], _, rfl, List.mem_singleton.mpr rfl, hMixed, by decide⟩,
      List.all_eq_true.mp (by decide), List.all_eq_true.mp (by decide)⟩
  have hOther : (⟨true, [4, 2]⟩ : Numeral).StandsIn "-42".toList :=
    ⟨[], _, [], rfl, ⟨['-'], ['4', '2'], rfl, List.mem_singleton.mpr rfl,
      .of_isDigit (List.all_eq_true.mp (by decide)), by decide⟩, List.forall_mem_nil _,
      List.forall_mem_nil _⟩
  have hReadable : (⟨true, [0, 4, 2]⟩ : Numeral).Readable := ⟨by decide, by decide⟩
  refine ⟨(hRead _).mpr ⟨_, hStands, hReadable, by decide⟩, ?_⟩
  exact hSame "-42" _ _ hStands hOther hReadable ⟨by decide, by decide⟩ rfl rfl

end ColumnType

end TableStore
