import TableStore.Proofs.Table.Checks
import TableStore.Proofs.Table.ConditionText
import TableStore.Proofs.Text.Decimal

/-! # What a comparison concludes

A comparison of a column with a literal ends in rows or in an error of some kind. Of the literal it takes
only the integer that is read in it and its case folding, so literals that agree in both are not told
apart by any table.
-/

namespace TableStore

open Text

set_option autoImplicit false

/-- The texts are read as the same integer, or neither is, and fold to the same text. -/
def Alike (left right : String) : Prop :=
  integer? left = integer? right ∧ fold left = fold right

theorem Alike.refl (text : String) : Alike text text :=
  ⟨rfl, rfl⟩

/-- What starts a name is neither a sign nor a digit. -/
theorem IsName.integer?_eq_none {word : String} (h : IsName word.toList) : integer? word = none := by
  rw [integer?, stripChars_of_word h.isBlank_eq_false]
  obtain ⟨first, rest, hText, hFirst, -⟩ := h
  have hHead : ∀ c, (first :: rest).head? = some c → isNameStart c = true := by
    intro c hc
    rw [← Option.some.inj hc, hFirst]
  have hDigits : digitValues? (first :: rest) = none := by
    rw [Option.eq_none_iff_forall_ne_some]
    intro digits hSome
    have hDigit := (digitValues?_eq_some_iff.mp hSome).2.1.isDigit_head
    rw [isNameStart_eq_false_of_isDigit hDigit] at hFirst
    cases hFirst
  rw [hText, integerChars?_unsigned (head?_ne hHead (by decide)) (head?_ne hHead (by decide)), natural?,
    hDigits]
  rfl

theorem IsName.alike_upper {word : String} (h : IsName word.toList) : Alike (Text.upper word) word :=
  ⟨h.upper.integer?_eq_none.trans h.integer?_eq_none.symm, h.fold_upper⟩

/-- The result is as the verdict says, which names only the kind of an error. -/
def Concludes {α : Type} (result : Except Failure α) : Except ErrorKind α → Prop
  | .ok a => result = .ok a
  | .error kind => ∃ error, result = .error (.error error) ∧ error.kind = kind

theorem Concludes.map {α β : Type} {result : Except Failure α} {verdict : Except ErrorKind α}
    (h : Concludes result verdict) (f : α → β) : Concludes (result.map f) (verdict.map f) := by
  cases verdict with
  | ok a => exact congrArg (Except.map f) h
  | error kind =>
    obtain ⟨error, rfl, hKind⟩ := h
    exact ⟨error, rfl, hKind⟩

namespace ColumnType

variable {type : ColumnType} {left right : String}

theorem read?_eq_none_iff_of_alike (h : Alike left right) :
    type.read? left = none ↔ type.read? right = none := by
  cases type with
  | int name => rw [read?, read?, h.1]
  | text name => simp [read?]

theorem compares_of_alike (h : Alike left right) {value other : Cell}
    (hLeft : type.read? left = some value) (hRight : type.read? right = some other)
    (comparison : Comparison) (cell : Cell) :
    type.compares comparison cell value = type.compares comparison cell other := by
  cases type with
  | int name =>
    rw [read?, h.1] at hLeft
    rw [Option.some.inj (hLeft.symm.trans hRight)]
  | text name =>
    cases hLeft
    cases hRight
    cases cell with
    | int value => rfl
    | text value => rw [compares, compares, order, order, h.2]

end ColumnType

namespace Table

/-- How the comparison of a column with a literal ends. -/
def verdict (table : Table) (column : String) (comparison : Comparison) (literal : String) :
    Except ErrorKind QueryAnswer :=
  match table.column? column with
  | none => .error .execution
  | some (found, index) =>
    match found.type.read? literal with
    | none => .error .typeMismatch
    | some value => .ok (table.allRows .applied (table.rows.filter fun row =>
        row[index]?.any fun cell => found.type.compares comparison cell value))

variable {table : Table} {column left right literal : String}

theorem verdict_of_column? {found : Column} {index : Nat} {comparison : Comparison}
    (h : table.column? column = some (found, index)) :
    table.verdict column comparison literal =
      match found.type.read? literal with
      | none => .error .typeMismatch
      | some value => .ok (table.allRows .applied (table.rows.filter fun row =>
          row[index]?.any fun cell => found.type.compares comparison cell value)) := by
  rw [verdict, h]

theorem verdict_congr (h : Alike left right) (comparison : Comparison) :
    table.verdict column comparison left = table.verdict column comparison right := by
  cases hFound : table.column? column with
  | none => rw [verdict, verdict, hFound]
  | some found =>
    obtain ⟨found, index⟩ := found
    rw [verdict_of_column? hFound, verdict_of_column? hFound]
    cases hLeft : found.type.read? left with
    | none => rw [(ColumnType.read?_eq_none_iff_of_alike h).mp hLeft]
    | some value =>
      cases hRight : found.type.read? right with
      | none =>
        rw [(ColumnType.read?_eq_none_iff_of_alike h).mpr hRight] at hLeft
        cases hLeft
      | some other => simp only [ColumnType.compares_of_alike h hLeft hRight]

theorem WellFormed.answer_concludes (h : table.WellFormed) (hColumn : IsName column.toList)
    (comparison : Comparison) (hNonempty : literal ≠ "")
    (hLiteral : ∀ c ∈ literal.toList, isBlank c = false) {query : Query}
    (hQuery : query.condition = some (conditionText column comparison literal)) :
    Concludes (table.answer query) (table.verdict column comparison (unquote literal)) := by
  cases hFound : table.column? column with
  | none =>
    rw [answer, hQuery, verdict, hFound]
    simp only [ofText?_conditionText_of_word hColumn comparison hNonempty hLiteral]
    rw [selectBy_of_error (bindTo_of_not_mem (column?_eq_none_iff.mp hFound))]
    exact ⟨_, rfl, rfl⟩
  | some found =>
    obtain ⟨found, index⟩ := found
    rw [verdict_of_column? hFound]
    obtain ⟨hIndex, rfl⟩ := h.column?_eq_some_iff.mp hFound
    rw [h.answer_of_word hIndex comparison hNonempty hLiteral hQuery]
    cases found.type.read? (unquote literal) with
    | none => exact ⟨_, rfl, rfl⟩
    | some value => rfl

end Table

end TableStore
