import TableStore.Proofs.Statement.Selection
import TableStore.Proofs.Table.Selection
import TableStore.Proofs.Token.Value

/-! # Conditions as they are written

A condition is split at its blanks again, so its literal must not hold one: then it is read as it was
written, and with a blank inside a quoted literal it is no condition at all. Read as it was written,
it selects by the cell that the literal is read as, or fails because there is no such cell.
-/

namespace TableStore

open Text

set_option autoImplicit false

theorem Comparison.pieces_text (comparison : Comparison) :
    pieces comparison.text = [comparison.text] := by
  cases comparison <;> decide

theorem pieces_conditionText {column : String} (hColumn : IsName column.toList)
    (comparison : Comparison) (literal : String) :
    pieces (conditionText column comparison literal) =
      column :: comparison.text :: pieces literal := by
  have hNonempty : column ≠ "" := by
    rintro rfl
    exact hColumn.ne_nil rfl
  rw [conditionText, pieces_intercalate, List.flatMap_cons, List.flatMap_cons, List.flatMap_cons,
    pieces_word hNonempty hColumn.isBlank_eq_false, comparison.pieces_text]
  simp

theorem ofText?_conditionText_of_word {column literal : String} (hColumn : IsName column.toList)
    (comparison : Comparison) (hNonempty : literal ≠ "")
    (hLiteral : ∀ c ∈ literal.toList, isBlank c = false) :
    Condition.ofText? (conditionText column comparison literal) =
      some { column, operator := comparison.text, literal := unquote literal } := by
  rw [Condition.ofText?, pieces_conditionText hColumn, pieces_word hNonempty hLiteral]

/-- The pieces of such a literal are more than one, and the condition has two more. -/
theorem ofText?_conditionText_of_blank {column literal : String} (hColumn : IsName column.toList)
    (comparison : Comparison) (hQuoted : IsQuoted literal.toList) {blank : Char}
    (hMember : blank ∈ literal.toList) (hBlank : isBlank blank = true) :
    Condition.ofText? (conditionText column comparison literal) = none := by
  obtain ⟨first, second, others, hPieces, -⟩ := hQuoted.exists_pieces_of_blank hMember hBlank
  rw [Condition.ofText?, pieces_conditionText hColumn, hPieces]

namespace Table

variable {table : Table} {column : Column} {index : Nat}

theorem WellFormed.answer_of_word (h : table.WellFormed) (hColumn : table.columns[index]? = some column)
    (comparison : Comparison) {query : Query} {literal : String} (hNonempty : literal ≠ "")
    (hLiteral : ∀ c ∈ literal.toList, isBlank c = false)
    (hQuery : query.condition = some (conditionText column.name comparison literal)) :
    table.answer query =
      match column.type.read? (unquote literal) with
      | none => .error (.error (.invalidInteger (unquote literal)))
      | some value => .ok (table.allRows .applied (table.rows.filter fun row =>
          row[index]?.any fun cell => column.type.compares comparison cell value)) := by
  have hName := (h.columns_wellFormed column (List.mem_of_getElem? hColumn)).name_isName
  have hBind := h.bindTo_of_read? hColumn comparison (unquote literal)
  rw [answer, hQuery]
  simp only [ofText?_conditionText_of_word hName comparison hNonempty hLiteral]
  cases hRead : column.type.read? (unquote literal) with
  | none =>
    rw [hRead] at hBind
    exact selectBy_of_error hBind
  | some value =>
    rw [hRead] at hBind
    exact h.selectBy_of_ok hBind

theorem WellFormed.answer_of_blank (h : table.WellFormed)
    (hColumn : table.columns[index]? = some column) (comparison : Comparison) {query : Query}
    {literal : String} (hQuoted : IsQuoted literal.toList) {blank : Char}
    (hMember : blank ∈ literal.toList) (hBlank : isBlank blank = true)
    (hQuery : query.condition = some (conditionText column.name comparison literal)) :
    table.answer query = .ok (table.allRows .ignored table.rows) := by
  have hName := (h.columns_wellFormed column (List.mem_of_getElem? hColumn)).name_isName
  rw [answer, hQuery]
  simp only [ofText?_conditionText_of_blank hName comparison hQuoted hMember hBlank]

end Table

end TableStore
