import TableStore.Proofs.Table.Selection

/-! # Checks of a table

Names of columns, the values of a row and a condition pass checks that come one after another, and what is
reported is the first that fails: the first name that equals an earlier one; the number of values before
the leftmost value that its column refuses; the column of a condition, then its operator, then its literal.
-/

namespace TableStore

open Text

set_option autoImplicit false

/-- The first name that equals an earlier one. -/
def RepeatsFirst (names : List String) (name : String) : Prop :=
  ∃ before after, names = before ++ name :: after ∧ before.Nodup ∧ name ∈ before

/-- By induction on the names; those that were seen count as earlier ones. -/
theorem firstRepeated?_eq_some_iff {seen names : List String} {name : String} :
    firstRepeated? seen names = some name ↔
      ∃ before after, names = before ++ name :: after ∧ before.Nodup ∧ (∀ other ∈ before, other ∉ seen) ∧
        (name ∈ before ∨ name ∈ seen) := by
  induction names generalizing seen with
  | nil => simp [firstRepeated?]
  | cons first names ih =>
    rw [firstRepeated?]
    by_cases hSeen : first ∈ seen
    · rw [if_pos (by simpa using hSeen)]
      constructor
      · intro h
        cases h
        exact ⟨[], names, rfl, .nil, List.forall_mem_nil _, .inr hSeen⟩
      · rintro ⟨before, after, hSplit, -, hUnseen, -⟩
        cases before with
        | nil =>
          cases hSplit
          rfl
        | cons other before =>
          cases hSplit
          exact absurd hSeen (hUnseen first List.mem_cons_self)
    · rw [if_neg (by simpa using hSeen), ih]
      constructor
      · rintro ⟨before, after, rfl, hDistinct, hUnseen, hName⟩
        exact ⟨first :: before, after, rfl, by grind, by grind, by grind⟩
      · rintro ⟨before, after, hSplit, hDistinct, hUnseen, hName⟩
        cases before with
        | nil =>
          cases hSplit
          exact absurd (hName.resolve_left List.not_mem_nil) hSeen
        | cons other before =>
          cases hSplit
          exact ⟨before, after, rfl, by grind, by grind, by grind⟩

theorem firstRepeated?_eq_some_iff_repeatsFirst {names : List String} {name : String} :
    firstRepeated? [] names = some name ↔ RepeatsFirst names name := by
  simp [firstRepeated?_eq_some_iff, RepeatsFirst]

theorem exists_repeatsFirst_iff {names : List String} :
    (∃ name, RepeatsFirst names name) ↔ ¬names.Nodup := by
  have hNone : firstRepeated? [] names = none ↔ names.Nodup := by simp [firstRepeated?_eq_none_iff]
  rw [← hNone, ← ne_eq, Option.ne_none_iff_exists']
  simp only [firstRepeated?_eq_some_iff_repeatsFirst]

/-- An integer column refuses a text that is no integer. -/
def ColumnType.Refuses (type : ColumnType) (text : String) : Prop :=
  ∃ name, type = int name ∧ integer? text = none

theorem ColumnType.refuses_iff {type : ColumnType} {text : String} :
    type.Refuses text ↔ type.read? text = none := by
  cases type <;> simp [Refuses, read?]

theorem Comparison.mem_texts_iff {text : String} :
    text ∈ ["=", "<", ">"] ↔ ∃ comparison : Comparison, text = comparison.text := by
  constructor
  · intro h
    simp only [List.mem_cons, List.not_mem_nil, or_false] at h
    rcases h with rfl | rfl | rfl
    · exact ⟨.equal, rfl⟩
    · exact ⟨.less, rfl⟩
    · exact ⟨.greater, rfl⟩
  · rintro ⟨comparison, rfl⟩
    cases comparison <;> decide

/-- The leftmost of the values that is refused, with its column. -/
def RefusesFirst (columns : List Column) (values : List Literal) (column : Column) (value : Literal) :
    Prop :=
  ∃ before after, columns.zip values = before ++ (column, value) :: after ∧
    (∀ pair ∈ before, ¬pair.1.type.Refuses pair.2.text) ∧ column.type.Refuses value.text

theorem refusesFirst_iff {columns : List Column} {values : List Literal} {column : Column}
    {value : Literal} :
    RefusesFirst columns values column value ↔
      (columns.zip values).find? (fun pair => (pair.1.type.read? pair.2.text).isNone) =
        some (column, value) := by
  simp only [RefusesFirst, ColumnType.refuses_iff, List.find?_eq_some_iff_append, Option.isNone_iff_eq_none,
    Bool.not_eq_true', Option.isNone_eq_false_iff, Option.isSome_iff_ne_none, ne_eq]
  constructor
  · rintro ⟨before, after, hSplit, hBefore, hRefused⟩
    exact ⟨hRefused, before, after, hSplit, hBefore⟩
  · rintro ⟨hRefused, before, after, hSplit, hBefore⟩
    exact ⟨before, after, hSplit, hBefore, hRefused⟩

theorem RefusesFirst.exists_index {columns : List Column} {values : List Literal} {column : Column}
    {value : Literal} (h : RefusesFirst columns values column value) :
    ∃ index : Nat, columns[index]? = some column ∧ values[index]? = some value ∧
      column.type.read? value.text = none := by
  obtain ⟨before, after, hSplit, -, hRefused⟩ := h
  have hPair : (columns.zip values)[before.length]? = some (column, value) := by simp [hSplit]
  obtain ⟨hColumn, hValue⟩ := List.getElem?_zip_eq_some.mp hPair
  exact ⟨before.length, hColumn, hValue, ColumnType.refuses_iff.mp hRefused⟩

theorem exists_refusesFirst_iff {columns : List Column} {values : List Literal} :
    (∃ column value, RefusesFirst columns values column value) ↔
      ∃ pair ∈ columns.zip values, pair.1.type.Refuses pair.2.text := by
  constructor
  · rintro ⟨column, value, before, after, hSplit, -, hRefused⟩
    exact ⟨(column, value), hSplit ▸ List.mem_append_right _ List.mem_cons_self, hRefused⟩
  · rintro ⟨pair, hPair, hRefused⟩
    have hFound : ((columns.zip values).find? fun pair => (pair.1.type.read? pair.2.text).isNone).isSome :=
      List.find?_isSome.mpr ⟨pair, hPair, Option.isNone_iff_eq_none.mpr (ColumnType.refuses_iff.mp hRefused)⟩
    obtain ⟨⟨column, value⟩, hFirst⟩ := Option.isSome_iff_exists.mp hFound
    exact ⟨column, value, refusesFirst_iff.mpr hFirst⟩

namespace Table

theorem readCells_eq_error_iff {table : String} {columns : List Column} {values : List Literal}
    {error : Error} :
    readCells table columns values = .error error ↔
      ∃ column value, RefusesFirst columns values column value ∧
        error = .wrongType table column.name column.type value.text := by
  simp only [refusesFirst_iff]
  induction columns generalizing values with
  | nil => simp [readCells]
  | cons column columns ih =>
    cases values with
    | nil => simp [readCells]
    | cons value values =>
      rw [readCells, List.zip_cons_cons, List.find?_cons]
      cases hRead : column.type.read? value.text with
      | none => simp [eq_comm, and_assoc]
      | some cell =>
        have hRest := @ih values
        cases hCells : readCells table columns values with
        | error other => simpa [hCells, Except.map] using hRest
        | ok cells => simpa [hCells, Except.map] using hRest

theorem exists_readCells_iff {table : String} {columns : List Column} {values : List Literal} :
    (∃ row, readCells table columns values = .ok row) ↔
      ∀ pair ∈ columns.zip values, ¬pair.1.type.Refuses pair.2.text := by
  induction columns generalizing values with
  | nil => simp [readCells]
  | cons column columns ih =>
    cases values with
    | nil => simp [readCells]
    | cons value values =>
      rw [readCells, List.zip_cons_cons, List.forall_mem_cons, ← ih, ColumnType.refuses_iff]
      cases column.type.read? value.text with
      | none => simp
      | some cell => cases readCells table columns values <;> simp [Except.map]

/-- The checks of a row: the number of its values, then the values from left to right. -/
inductive RefusesRow (table : Table) (values : List Literal) : Error → Prop
  | count : values.length ≠ table.columns.length →
      RefusesRow table values (.valueCount table.name values.length table.columns.length)
  | type {column : Column} {value : Literal} : values.length = table.columns.length →
      RefusesFirst table.columns values column value →
      RefusesRow table values (.wrongType table.name column.name column.type value.text)

/-- The values pass all checks of a row. -/
def AdmitsRow (table : Table) (values : List Literal) : Prop :=
  values.length = table.columns.length ∧
    ∀ pair ∈ table.columns.zip values, ¬pair.1.type.Refuses pair.2.text

/-- The checks of a condition: its column, then its operator, then its literal. -/
inductive RefusesCondition (table : Table) (condition : Condition) : Error → Prop
  | column : condition.column ∉ table.columnNames →
      RefusesCondition table condition (.columnNotFound table.name condition.column)
  | operator : condition.column ∈ table.columnNames → condition.operator ∉ ["=", "<", ">"] →
      RefusesCondition table condition (.unsupportedComparison condition.operator)
  | literal {column : Column} : column ∈ table.columns → column.name = condition.column →
      condition.operator ∈ ["=", "<", ">"] → column.type.Refuses condition.literal →
      RefusesCondition table condition (.invalidInteger condition.literal)

/-- The condition passes all checks. -/
def AdmitsCondition (table : Table) (condition : Condition) : Prop :=
  condition.operator ∈ ["=", "<", ">"] ∧
    ∃ column ∈ table.columns, column.name = condition.column ∧ ¬column.type.Refuses condition.literal

variable {table : Table} {values : List Literal} {condition : Condition} {error : Error}

theorem column?_eq_none_iff {name : String} : table.column? name = none ↔ name ∉ table.columnNames := by
  calc
    table.column? name = none ↔ table.columnIndex? name = none := by
      rw [columnIndex?, Option.map_eq_none_iff]
    _ ↔ ∀ column ∈ table.columns, column.name ≠ name := columnIndex?_eq_none_iff
    _ ↔ name ∉ table.columnNames := by simp [columnNames]

theorem readRow_eq_error_iff : table.readRow values = .error error ↔ table.RefusesRow values error := by
  rw [readRow]
  split
  · next hLength =>
    rw [readCells_eq_error_iff]
    constructor
    · rintro ⟨column, value, hFirst, rfl⟩
      exact .type (eq_of_beq hLength) hFirst
    · rintro (hCount | ⟨-, hFirst⟩)
      · exact absurd (eq_of_beq hLength) hCount
      · exact ⟨_, _, hFirst, rfl⟩
  · next hLength =>
    have hCount : values.length ≠ table.columns.length := by simpa using hLength
    constructor
    · intro h
      cases h
      exact .count hCount
    · rintro (- | ⟨hSame, -⟩)
      · rfl
      · exact absurd hSame hCount

theorem exists_readRow_iff : (∃ row, table.readRow values = .ok row) ↔ table.AdmitsRow values := by
  rw [readRow, AdmitsRow]
  split
  · next hLength => simp [exists_readCells_iff, eq_of_beq hLength]
  · next hLength => simp_all

theorem bindTo_of_not_mem (h : condition.column ∉ table.columnNames) :
    condition.bindTo table = .error (.columnNotFound table.name condition.column) := by
  rw [Condition.bindTo, column?_eq_none_iff.mpr h]

theorem bindTo_of_unsupported (h : condition.column ∈ table.columnNames)
    (hOperator : condition.operator ∉ ["=", "<", ">"]) :
    condition.bindTo table = .error (.unsupportedComparison condition.operator) := by
  have hNone : Comparison.ofText? condition.operator = none := by
    rw [Option.eq_none_iff_forall_ne_some]
    intro comparison hSome
    exact hOperator (Comparison.mem_texts_iff.mpr ⟨comparison, Comparison.ofText?_eq_some_iff.mp hSome⟩)
  rw [Condition.bindTo]
  split
  · next hFound => exact absurd h (column?_eq_none_iff.mp hFound)
  · simp only [comparisonOf, hNone]
    rfl

/-- With its column and its operator found, only the literal decides. -/
theorem WellFormed.bindTo_of_mem (h : table.WellFormed) {column : Column} (hColumn : column ∈ table.columns)
    (hName : column.name = condition.column) (hOperator : condition.operator ∈ ["=", "<", ">"]) :
    (column.type.Refuses condition.literal →
        condition.bindTo table = .error (.invalidInteger condition.literal)) ∧
      (¬column.type.Refuses condition.literal → ∃ bound, condition.bindTo table = .ok bound) := by
  obtain ⟨index, hIndex⟩ := List.mem_iff_getElem?.mp hColumn
  obtain ⟨comparison, hComparison⟩ := Comparison.mem_texts_iff.mp hOperator
  have hBind := h.bindTo_of_read? hIndex comparison condition.literal
  rw [hName, ← hComparison] at hBind
  rw [ColumnType.refuses_iff]
  cases hRead : column.type.read? condition.literal with
  | none =>
    rw [hRead] at hBind
    exact ⟨fun _ => hBind, fun hAccepted => absurd rfl hAccepted⟩
  | some value =>
    rw [hRead] at hBind
    exact ⟨nofun, fun _ => ⟨_, hBind⟩⟩

theorem WellFormed.bindTo_eq_error_iff (h : table.WellFormed) :
    condition.bindTo table = .error error ↔ table.RefusesCondition condition error := by
  constructor
  · intro hError
    by_cases hColumn : condition.column ∈ table.columnNames
    · by_cases hOperator : condition.operator ∈ ["=", "<", ">"]
      · obtain ⟨column, hMember, hName⟩ := List.mem_map.mp hColumn
        obtain ⟨hRefuses, hAccepts⟩ := h.bindTo_of_mem hMember hName hOperator
        by_cases hRefused : column.type.Refuses condition.literal
        · rw [hRefuses hRefused] at hError
          cases hError
          exact .literal hMember hName hOperator hRefused
        · obtain ⟨bound, hBound⟩ := hAccepts hRefused
          rw [hBound] at hError
          cases hError
      · rw [bindTo_of_unsupported hColumn hOperator] at hError
        cases hError
        exact .operator hColumn hOperator
    · rw [bindTo_of_not_mem hColumn] at hError
      cases hError
      exact .column hColumn
  · rintro (hColumn | ⟨hColumn, hOperator⟩ | ⟨hMember, hName, hOperator, hRefused⟩)
    · exact bindTo_of_not_mem hColumn
    · exact bindTo_of_unsupported hColumn hOperator
    · exact (h.bindTo_of_mem hMember hName hOperator).1 hRefused

theorem WellFormed.exists_bindTo_iff (h : table.WellFormed) :
    (∃ bound, condition.bindTo table = .ok bound) ↔ table.AdmitsCondition condition := by
  constructor
  · rintro ⟨bound, hBound⟩
    obtain ⟨column, hColumn, hName, -, hOperator, hRead⟩ := h.bindTo_eq_ok_iff.mp hBound
    refine ⟨Comparison.mem_texts_iff.mpr ⟨bound.comparison, hOperator⟩, column,
      List.mem_of_getElem? hColumn, hName, ?_⟩
    simp [ColumnType.refuses_iff, hRead]
  · rintro ⟨hOperator, column, hColumn, hName, hAccepted⟩
    exact (h.bindTo_of_mem hColumn hName hOperator).2 hAccepted

end Table

/-- The text after WHERE falls into the three pieces of the condition. -/
def Query.Compares (query : Query) (condition : Condition) : Prop :=
  ∃ text literal, query.condition = some text ∧
    pieces text = [condition.column, condition.operator, literal] ∧ condition.literal = unquote literal

theorem Condition.ofText?_eq_some_iff {text : String} {condition : Condition} :
    ofText? text = some condition ↔
      ∃ literal, pieces text = [condition.column, condition.operator, literal] ∧
        condition.literal = unquote literal := by
  rw [ofText?]
  constructor
  · intro h
    split at h
    · next hPieces =>
      cases h
      exact ⟨_, hPieces, rfl⟩
    · cases h
  · rintro ⟨literal, hPieces, hLiteral⟩
    rw [hPieces]
    simp only [← hLiteral]

theorem Query.compares_iff {query : Query} {condition : Condition} :
    query.Compares condition ↔ ∃ text, query.condition = some text ∧
      Condition.ofText? text = some condition := by
  simp only [Compares, Condition.ofText?_eq_some_iff, exists_and_left]

namespace Table

variable {table : Table} {query : Query} {condition : Condition}

theorem answer_of_compares (h : query.Compares condition) :
    table.answer query = table.selectBy condition := by
  obtain ⟨text, hText, hCondition⟩ := Query.compares_iff.mp h
  rw [answer, hText]
  simp only [hCondition]

/-- Any other text is ignored. -/
theorem exists_answer_of_not_compares (h : ∀ condition, ¬query.Compares condition) :
    ∃ answer, table.answer query = .ok answer := by
  rw [answer]
  split
  · exact ⟨_, rfl⟩
  · next text hText =>
    split
    · exact ⟨_, rfl⟩
    · next condition hCondition =>
      exact absurd (Query.compares_iff.mpr ⟨text, hText, hCondition⟩) (h condition)

theorem WellFormed.answer_eq_error_iff (h : table.WellFormed) {error : Error} :
    table.answer query = .error (.error error) ↔
      ∃ condition, query.Compares condition ∧ table.RefusesCondition condition error := by
  constructor
  · intro hError
    by_cases hCompares : ∃ condition, query.Compares condition
    · obtain ⟨condition, hCondition⟩ := hCompares
      refine ⟨condition, hCondition, h.bindTo_eq_error_iff.mp ?_⟩
      rw [answer_of_compares hCondition] at hError
      cases hBound : condition.bindTo table with
      | error other =>
        rw [selectBy_of_error hBound] at hError
        cases hError
        rfl
      | ok bound =>
        rw [h.selectBy_of_ok hBound] at hError
        cases hError
    · obtain ⟨answer, hAnswer⟩ : ∃ answer, table.answer query = .ok answer :=
        exists_answer_of_not_compares fun condition hCondition => hCompares ⟨condition, hCondition⟩
      rw [hAnswer] at hError
      cases hError
  · rintro ⟨condition, hCondition, hRefused⟩
    rw [answer_of_compares hCondition, selectBy_of_error (h.bindTo_eq_error_iff.mpr hRefused)]

theorem WellFormed.exists_answer_iff (h : table.WellFormed) :
    (∃ answer, table.answer query = .ok answer) ↔
      ∀ condition, query.Compares condition → table.AdmitsCondition condition := by
  constructor
  · rintro ⟨answer, hAnswer⟩ condition hCondition
    rw [answer_of_compares hCondition] at hAnswer
    obtain ⟨bound, hBound, -⟩ := h.selectBy_eq_ok_iff.mp hAnswer
    exact h.exists_bindTo_iff.mp ⟨bound, hBound⟩
  · intro hAdmits
    by_cases hCompares : ∃ condition, query.Compares condition
    · obtain ⟨condition, hCondition⟩ := hCompares
      obtain ⟨bound, hBound⟩ := h.exists_bindTo_iff.mpr (hAdmits condition hCondition)
      exact ⟨_, (answer_of_compares hCondition).trans (h.selectBy_of_ok hBound)⟩
    · exact exists_answer_of_not_compares fun condition hCondition => hCompares ⟨condition, hCondition⟩

end Table

end TableStore
