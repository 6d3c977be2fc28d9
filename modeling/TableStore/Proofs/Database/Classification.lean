import TableStore.Proofs.Database.Step
import TableStore.Proofs.Statement.ConditionTokens
import TableStore.Proofs.Table.ConditionText

/-! # What becomes of a condition

A condition of three pieces is applied exactly if it is made of three tokens: the name of a column, a
comparison, and a word that the column reads; a quoted text that falls into pieces never gets that far.
Any other condition is ignored with a warning, and nothing else is warned of.
-/

namespace TableStore

open Text

set_option autoImplicit false

/-- The tokens compare a column with a word that its type reads, and rows are kept by that. -/
inductive Table.Applies (table : Table) : List Token → (Row → Bool) → Prop
  | intro {left sign right : Token} {index : Nat} {column : Column} {comparison : Comparison}
      {value : Cell} :
      table.columns[index]? = some column → left.value = column.name →
      sign.kind = .comparison → sign.value = comparison.text →
      (∀ c ∈ right.value.toList, isBlank c = false) →
      column.type.read? (unquote right.value) = some value →
      Applies table [left, sign, right] fun row =>
        row[index]?.any fun cell => column.type.compares comparison cell value

/-- Three tokens: the name of a column, a comparison, and a word that the type of the column reads. -/
def Table.Comparable (table : Table) (parts : List Token) : Prop :=
  ∃ left sign right column, parts = [left, sign, right] ∧ column ∈ table.columns ∧
    left.value = column.name ∧ sign.kind = .comparison ∧
    (∀ c ∈ right.value.toList, isBlank c = false) ∧
    (column.type.read? (unquote right.value)).isSome

/-- The events that are warned of. -/
def warnings (events : List Event) : List Event :=
  events.filter fun event => event.level == .warning

def Answer.ignoresCondition : Answer → Bool
  | created _ _ => false
  | inserted => false
  | found answer => answer.conditionUse == .ignored

theorem Condition.ofText?_of_pieces {text column operator literal : String}
    (h : pieces text = [column, operator, literal]) :
    ofText? text = some { column, operator, literal := unquote literal } := by
  rw [ofText?, h]

theorem Condition.ofText?_eq_none {text : String} (h : (pieces text).length ≠ 3) :
    ofText? text = none := by
  rw [ofText?]
  split
  · next hPieces =>
    rw [hPieces] at h
    exact absurd rfl h
  · rfl

theorem IsName.not_startsWithQuote {text : String} (h : IsName text.toList) : ¬StartsWithQuote text := by
  rintro ⟨quote, rest, hText, hQuote⟩
  obtain ⟨first, others, hName, hFirst, -⟩ := h
  obtain ⟨rfl, -⟩ := List.cons.inj (hText.symm.trans hName)
  simp only [isQuote, Bool.or_eq_true, beq_iff_eq] at hQuote
  rcases hQuote with rfl | rfl <;> exact absurd hFirst (by decide)

theorem Comparison.not_startsWithQuote (comparison : Comparison) : ¬StartsWithQuote comparison.text := by
  rintro ⟨quote, rest, hText, hQuote⟩
  cases comparison <;> cases hText <;> cases hQuote

namespace Table

variable {table : Table} {text : String} {parts : List Token} {query : Query}

/-- A token of the kind is one of the three comparisons, so the kind is enough. -/
theorem exists_applies_iff (hParts : ∀ part ∈ parts, part ∈ tokens text) :
    (∃ keeps, table.Applies parts keeps) ↔ table.Comparable parts := by
  constructor
  · rintro ⟨_, @⟨left, sign, right, _, column, _, value, hColumn, hLeft, hKind, _, hWord, hValue⟩⟩
    exact ⟨left, sign, right, column, rfl, List.mem_of_getElem? hColumn, hLeft, hKind, hWord,
      by simp [hValue]⟩
  · rintro ⟨left, sign, right, column, rfl, hColumn, hLeft, hKind, hWord, hRead⟩
    obtain ⟨index, hIndex⟩ := List.mem_iff_getElem?.mp hColumn
    obtain ⟨comparison, hSign⟩ :=
      (written_of_mem_tokens (hParts sign (by simp))).exists_comparison hKind
    obtain ⟨value, hValue⟩ := Option.isSome_iff_exists.mp hRead
    exact ⟨_, .intro hIndex hLeft hKind hSign hWord hValue⟩

/-- A quote in front leaves no column or no comparison. -/
theorem WellFormed.bindTo_ne_ok_of_quote (h : table.WellFormed) {condition : Condition}
    (hQuote : StartsWithQuote condition.column ∨ StartsWithQuote condition.operator)
    (bound : BoundCondition) : condition.bindTo table ≠ .ok bound := by
  intro hBound
  obtain ⟨column, hColumn, hName, -, hOperator, -⟩ := h.bindTo_eq_ok_iff.mp hBound
  rcases hQuote with hQuote | hQuote
  · rw [← hName] at hQuote
    exact (h.columns_wellFormed column (List.mem_of_getElem? hColumn)).name_isName.not_startsWithQuote
      hQuote
  · rw [hOperator] at hQuote
    exact bound.comparison.not_startsWithQuote hQuote

theorem WellFormed.applies_iff (h : table.WellFormed) (hParts : ∀ part ∈ parts, part ∈ tokens text)
    {first second third : String} (hPieces : valuePieces parts = [first, second, third])
    {keeps : Row → Bool} :
    table.Applies parts keeps ↔
      ∃ bound, Condition.bindTo { column := first, operator := second, literal := unquote third } table =
        .ok bound ∧ keeps = bound.keeps := by
  constructor
  · rintro (@⟨left, sign, right, index, column, comparison, value, hColumn, hLeft, hKind, hSign, hWord,
      hValue⟩)
    have hName := (h.columns_wellFormed column (List.mem_of_getElem? hColumn)).name_isName
    have hLeftPieces : pieces left.value = [left.value] := by
      rw [hLeft]
      refine pieces_word ?_ hName.isBlank_eq_false
      intro hEmpty
      exact hName.ne_nil (by simp [hEmpty])
    have hSignPieces : pieces sign.value = [sign.value] := by
      rw [hSign]
      exact comparison.pieces_text
    have hRightPieces : pieces right.value = [right.value] :=
      pieces_word (value_ne_empty_of_mem_tokens (hParts right (by simp))) hWord
    simp only [valuePieces, List.flatMap_cons, List.flatMap_nil, hLeftPieces, hSignPieces,
      hRightPieces, List.cons_append, List.nil_append, List.cons.injEq, and_true] at hPieces
    obtain ⟨rfl, rfl, rfl⟩ := hPieces
    refine ⟨{ index, type := column.type, comparison, value }, ?_, rfl⟩
    exact h.bindTo_eq_ok_iff.mpr ⟨column, hColumn, hLeft.symm, rfl, hSign, hValue⟩
  · rintro ⟨bound, hBound, rfl⟩
    rcases three_tokens_or_quote hParts hPieces with
      ⟨left, sign, right, rfl, rfl, rfl, rfl, hWord⟩ | hQuote
    · obtain ⟨column, hColumn, hName, hType, hOperator, hValue⟩ := h.bindTo_eq_ok_iff.mp hBound
      have hKeeps : bound.keeps = fun row => row[bound.index]?.any fun cell =>
          column.type.compares bound.comparison cell bound.value := by
        rw [← hType]
        rfl
      have hKind := Token.kind_eq_comparison_of_mem_tokens (hParts sign (by simp)) hOperator
      rw [hKeeps]
      exact .intro hColumn hName.symm hKind hOperator hWord hValue
    · exact absurd hBound (h.bindTo_ne_ok_of_quote hQuote bound)

theorem WellFormed.answer_of_three_pieces (h : table.WellFormed)
    (hParts : ∀ part ∈ parts, part ∈ tokens text)
    (hCondition : query.condition = some (" ".intercalate (parts.map Token.value)))
    (hThree : (valuePieces parts).length = 3) :
    (∀ answer, table.answer query = .ok answer ↔ ∃ keeps, table.Applies parts keeps ∧
        answer = table.allRows .applied (table.rows.filter keeps)) ∧
      ∀ failure, table.answer query = .error failure →
        ∃ error, failure = .error error ∧ (error.kind = .execution ∨ error.kind = .typeMismatch) := by
  obtain ⟨first, second, third, hPieces⟩ := List.length_eq_three.mp hThree
  have hAnswer : table.answer query =
      table.selectBy { column := first, operator := second, literal := unquote third } := by
    have hOfText := Condition.ofText?_of_pieces ((pieces_intercalate_values parts).trans hPieces)
    rw [answer, hCondition]
    simp only [hOfText]
  rw [hAnswer]
  constructor
  · intro answer
    rw [h.selectBy_eq_ok_iff]
    constructor
    · rintro ⟨bound, hBound, hSame⟩
      exact ⟨bound.keeps, (h.applies_iff hParts hPieces).mpr ⟨bound, hBound, rfl⟩, hSame⟩
    · rintro ⟨keeps, hApplies, hSame⟩
      obtain ⟨bound, hBound, rfl⟩ := (h.applies_iff hParts hPieces).mp hApplies
      exact ⟨bound, hBound, hSame⟩
  · intro failure hFailure
    cases hBound : Condition.bindTo ⟨first, second, unquote third⟩ table with
    | ok bound =>
      rw [h.selectBy_of_ok hBound] at hFailure
      cases hFailure
    | error error =>
      rw [selectBy_of_error hBound] at hFailure
      cases hFailure
      exact ⟨error, rfl, kind_of_bindTo_eq_error hBound⟩

theorem answer_of_other_pieces {condition : String} (hCondition : query.condition = some condition)
    (hOther : (pieces condition).length ≠ 3) :
    table.answer query = .ok (table.allRows .ignored table.rows) := by
  rw [answer, hCondition]
  simp only [Condition.ofText?_eq_none hOther]

theorem conditionUse_eq_ignored_iff {answer : QueryAnswer} (hAnswer : table.answer query = .ok answer) :
    answer.conditionUse = .ignored ↔ query.ignoredCondition?.isSome := by
  rw [Table.answer] at hAnswer
  rw [Query.ignoredCondition?]
  split at hAnswer
  · next hNone =>
    cases hAnswer
    simp [hNone, allRows]
  · next condition hSome =>
    split at hAnswer
    · next hOther =>
      cases hAnswer
      simp [hSome, hOther, allRows]
    · next bound hBound =>
      simp only [selectBy, bind, Except.bind] at hAnswer
      split at hAnswer
      · cases hAnswer
      · split at hAnswer
        · cases hAnswer
        · cases hAnswer
          simp [hSome, hBound, allRows]

end Table

@[simp]
theorem warnings_append (events others : List Event) :
    warnings (events ++ others) = warnings events ++ warnings others :=
  List.filter_append events others

theorem warnings_readingEvents (text : String) : warnings (readingEvents text) = [] := by
  rw [readingEvents, warnings_append, List.append_eq_nil_iff]
  constructor
  · rw [warnings, List.filter_map, List.map_eq_nil_iff, List.filter_eq_nil_iff]
    rintro ⟨position, c⟩ -
    exact Bool.false_ne_true
  · rw [warnings, List.filter_map, List.map_eq_nil_iff, List.filter_eq_nil_iff]
    intro token _
    exact Bool.false_ne_true

theorem warnings_queryEvents (query : Query) :
    warnings query.events = (query.ignoredCondition?.map Event.conditionIgnored).toList := by
  rw [Query.events, warnings_append]
  cases query.asksForOrder <;> cases query.ignoredCondition? <;> rfl

namespace Database

variable {database : Database} {text : String}

theorem warnings_execute {statement : Statement} (hStatement : Statement.ofText text = .ok statement) :
    warnings (database.execute text).events = warnings (database.apply statement).events := by
  simp only [execute, hStatement, warnings_append, warnings_readingEvents]
  rfl

theorem warnings_of_select {query : Query} {table : Table}
    (hStatement : Statement.ofText text = .ok (.select query))
    (hTable : database.table? query.table = some table) :
    warnings (database.execute text).events =
      (query.ignoredCondition?.map Event.conditionIgnored).toList := by
  rw [warnings_execute hStatement]
  simp only [apply, Database.table, hTable, warnings_queryEvents]

/-- A query whose condition is ignored is answered, so the warning and the answer go together. -/
theorem length_warnings_of_select {query : Query} {table : Table}
    (hStatement : Statement.ofText text = .ok (.select query))
    (hTable : database.table? query.table = some table) :
    (warnings (database.execute text).events).length =
      if (database.execute text).outcome.toOption.any Answer.ignoresCondition then 1 else 0 := by
  rw [warnings_of_select hStatement hTable, outcome_of_select hStatement hTable]
  cases hAnswer : table.answer query with
  | ok answer =>
    have hIgnored := Table.conditionUse_eq_ignored_iff hAnswer
    cases hCondition : query.ignoredCondition? with
    | none => simp_all [Except.map, Except.toOption, Answer.ignoresCondition]
    | some condition => simp_all [Except.map, Except.toOption, Answer.ignoresCondition]
  | error failure =>
    cases hCondition : query.ignoredCondition? with
    | none => simp [Except.map, Except.toOption]
    | some condition =>
      obtain ⟨hSome, hOther⟩ := Option.filter_eq_some_iff.mp hCondition
      rw [Table.answer, hSome] at hAnswer
      simp only [Option.isNone_iff_eq_none.mp hOther] at hAnswer
      cases hAnswer

theorem length_warnings_execute (database : Database) (text : String) :
    (warnings (database.execute text).events).length =
      if (database.execute text).outcome.toOption.any Answer.ignoresCondition then 1 else 0 := by
  cases hStatement : Statement.ofText text with
  | error error =>
    simp only [execute, hStatement, warnings_append, warnings_readingEvents]
    rfl
  | ok statement =>
    cases statement with
    | create name columns =>
      rw [warnings_execute hStatement]
      simp only [execute, hStatement, apply]
      split <;> rfl
    | insert name literals =>
      rw [warnings_execute hStatement]
      simp only [execute, hStatement, apply]
      split <;> rfl
    | other kind =>
      rw [warnings_execute hStatement]
      simp only [execute, hStatement, apply]
      rfl
    | select query =>
      cases hTable : database.table? query.table with
      | some table => exact length_warnings_of_select hStatement hTable
      | none =>
        rw [warnings_execute hStatement]
        simp only [execute, hStatement, apply, Database.table, hTable]
        rfl

theorem warnings_run (database : Database) (text : String) :
    warnings (database.run text).events = warnings (database.execute text).events := by
  rw [run, Reply.display]
  split
  · rfl
  · rw [warnings_append]
    exact List.append_nil _
  · rfl

/-- Whether there is a condition, how many pieces it has and which tokens it is made of decides what a
query on a table of the store answers, and if it warns. No other statement warns. -/
theorem conditions_are_classified (texts : List String) (text : String) :
    let database := empty.executeAll texts
    let reply := database.execute text
    (∀ query table, Statement.ofText text = .ok (.select query) →
      database.table? query.table = some table →
      match conditionTokens? (tokens text) with
      | none => reply.outcome = .ok (.found (table.allRows .none table.rows))
      | some parts =>
        if (valuePieces parts).length = 3 then
          ((∃ answer, reply.outcome = .ok answer) ↔ table.Comparable parts) ∧
          (∀ answer, reply.outcome = .ok answer ↔ ∃ keeps, table.Applies parts keeps ∧
            answer = .found (table.allRows .applied (table.rows.filter keeps))) ∧
          ∀ failure, reply.outcome = .error failure →
            ∃ error, failure = .error error ∧ (error.kind = .execution ∨ error.kind = .typeMismatch)
        else
          reply.outcome = .ok (.found (table.allRows .ignored table.rows)) ∧
          warnings reply.events =
            [.conditionIgnored (" ".intercalate (parts.map Token.value))]) ∧
    (warnings reply.events).length =
      (if reply.outcome.toOption.any Answer.ignoresCondition then 1 else 0) ∧
    warnings (database.run text).events = warnings reply.events := by
  intro database reply
  refine ⟨?_, length_warnings_execute database text, warnings_run database text⟩
  intro query table hStatement hTable
  have hFormed : table.WellFormed := ((wellFormed_of_empty texts).of_table? hTable).1
  have hOutcome : reply.outcome = (table.answer query).map Answer.found :=
    outcome_of_select hStatement hTable
  have hWarnings : warnings reply.events = _ := warnings_of_select hStatement hTable
  have hCondition := Statement.condition_of_ofText hStatement
  rw [hOutcome, hWarnings]
  cases hTokens : conditionTokens? (tokens text) with
  | none =>
    rw [hTokens] at hCondition
    simp only [Table.answer, hCondition]
    rfl
  | some parts =>
    rw [hTokens] at hCondition
    have hParts := mem_tokens_of_conditionTokens? hTokens
    dsimp only
    split
    · next hThree =>
      obtain ⟨hApplied, hFailed⟩ := hFormed.answer_of_three_pieces hParts hCondition hThree
      have hFound : ∀ answer, (table.answer query).map Answer.found = .ok answer ↔
          ∃ keeps, table.Applies parts keeps ∧
            answer = .found (table.allRows .applied (table.rows.filter keeps)) := by
        intro answer
        constructor
        · intro hMapped
          obtain ⟨found, hAnswer, rfl⟩ := exists_of_map_eq_ok hMapped
          obtain ⟨keeps, hApplies, rfl⟩ := (hApplied found).mp hAnswer
          exact ⟨keeps, hApplies, rfl⟩
        · rintro ⟨keeps, hApplies, rfl⟩
          rw [(hApplied _).mpr ⟨keeps, hApplies, rfl⟩]
          rfl
      refine ⟨?_, hFound, fun failure hFailure => hFailed failure (eq_error_of_map_eq_error hFailure)⟩
      rw [← Table.exists_applies_iff hParts]
      constructor
      · rintro ⟨answer, hAnswer⟩
        obtain ⟨keeps, hApplies, -⟩ := (hFound answer).mp hAnswer
        exact ⟨keeps, hApplies⟩
      · rintro ⟨keeps, hApplies⟩
        exact ⟨_, (hFound _).mpr ⟨keeps, hApplies, rfl⟩⟩
    · next hOther =>
      rw [← pieces_intercalate_values] at hOther
      have hIgnored : query.ignoredCondition? = some (" ".intercalate (parts.map Token.value)) := by
        simp [Query.ignoredCondition?, hCondition, Condition.ofText?_eq_none hOther]
      rw [Table.answer_of_other_pieces hCondition hOther, hIgnored]
      exact ⟨rfl, rfl⟩

/-- Three pieces each: once a column, a comparison and a word, and once a column and a quoted text. -/
theorem pieces_of_quoted_text_are_no_condition :
    let database := empty.executeAll ["CREATE TABLE t (c TEXT)", "INSERT INTO t ('x')",
      "INSERT INTO t ('z')"]
    let compared := "SELECT * FROM t WHERE c < 'Y'"
    let quoted := "SELECT * FROM t WHERE c '< y'"
    (conditionTokens? (tokens compared)).map valuePieces = some ["c", "<", "'Y'"] ∧
      (database.execute compared).outcome =
        .ok (.found ⟨["c"], [[.text "x"]], .scan, .applied, 2⟩) ∧
      (conditionTokens? (tokens quoted)).map valuePieces = some ["c", "'<", "y'"] ∧
      ∃ error, (database.execute quoted).outcome = .error (.error error) ∧
        (error.kind = .execution ∨ error.kind = .typeMismatch) := by
  intro database compared quoted
  let table : Table := ⟨"t", [⟨"c", .text "TEXT", false⟩], [[.text "x"], [.text "z"]]⟩
  have hTable : database.table? "t" = some table := by decide +kernel
  have hCompared : Statement.ofText compared = .ok (.select ⟨"t", .all, some "c < 'Y'", []⟩) := by
    decide +kernel
  have hQuoted : Statement.ofText quoted = .ok (.select ⟨"t", .all, some "c '< y'", []⟩) := by
    decide +kernel
  have hComparedTokens : conditionTokens? (tokens compared) =
      some [⟨.identifier, "c", ⟨1, 23⟩⟩, ⟨.comparison, "<", ⟨1, 25⟩⟩, ⟨.string, "'Y'", ⟨1, 27⟩⟩] := by
    decide +kernel
  have hQuotedTokens : conditionTokens? (tokens quoted) =
      some [⟨.identifier, "c", ⟨1, 23⟩⟩, ⟨.string, "'< y'", ⟨1, 25⟩⟩] := by
    decide +kernel
  have hApplied := (conditions_are_classified _ compared).1 _ table hCompared hTable
  have hFailed := (conditions_are_classified _ quoted).1 _ table hQuoted hTable
  rw [hComparedTokens] at hApplied ⊢
  rw [hQuotedTokens] at hFailed ⊢
  dsimp only at hApplied hFailed
  rw [if_pos (by decide +kernel)] at hApplied hFailed
  refine ⟨by decide +kernel, ?_, by decide +kernel, ?_⟩
  · have hBlank : "'Y'".toList.any isBlank = false := by decide
    have hWord : ∀ c ∈ "'Y'".toList, isBlank c = false := fun c hc =>
      Bool.eq_false_iff.mpr (List.any_eq_false.mp hBlank c hc)
    refine (hApplied.2.1 _).mpr ⟨_, @Table.Applies.intro table _ _ _ 0 ⟨"c", .text "TEXT", false⟩ .less
      (.text "Y") rfl rfl rfl rfl hWord (by decide), ?_⟩
    decide +kernel
  · cases hOutcome : (database.execute quoted).outcome with
    | ok answer =>
      obtain ⟨keeps, hApplies, -⟩ := (hFailed.2.1 answer).mp hOutcome
      cases hApplies
    | error failure =>
      obtain ⟨error, rfl, hKind⟩ := hFailed.2.2 failure hOutcome
      exact ⟨error, rfl, hKind⟩

end Database

end TableStore
