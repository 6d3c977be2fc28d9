import TableStore.Proofs.Database.Step

/-! # Exchanges

Each statement of a run is answered, and nothing in its answer comes from any other table than the one
that it names: the outcome and the events are determined by what is stored under that name.
-/

namespace TableStore

set_option autoImplicit false

/-- The text of a statement, what came of it and what happened on the way. -/
structure Exchange where
  text : String
  outcome : Except Failure Answer
  events : List Event
deriving DecidableEq

/-- Is the text a statement that names the table? -/
def concerns (name text : String) : Bool :=
  (Statement.ofText text).toOption.bind Statement.table? == some name

theorem concerns_eq_true_iff {name text : String} :
    concerns name text = true ↔
      ∃ statement, Statement.ofText text = .ok statement ∧ statement.table? = some name := by
  cases hStatement : Statement.ofText text with
  | error error => simp [concerns, hStatement, Except.toOption]
  | ok statement => simp [concerns, hStatement, Except.toOption]

theorem eq_of_concerns {name other text : String} (h : concerns name text = true)
    (hOther : concerns other text = true) : name = other := by
  simp only [concerns, beq_iff_eq] at h hOther
  exact Option.some.inj (h.symm.trans hOther)

namespace Database

def exchange (database : Database) (text : String) : Exchange where
  text := text
  outcome := (database.execute text).outcome
  events := (database.execute text).events

/-- The exchanges of statements that are executed one after another. -/
def exchanges (database : Database) : List String → List Exchange
  | [] => []
  | text :: texts => database.exchange text :: (database.execute text).database.exchanges texts

theorem exchanges_append (database : Database) (texts others : List String) :
    database.exchanges (texts ++ others) =
      database.exchanges texts ++ (database.executeAll texts).exchanges others := by
  induction texts generalizing database with
  | nil => rfl
  | cons text texts ih => exact congrArg (database.exchange text :: ·) (ih _)

section

variable {left right : Database}

theorem apply_congr {statement : Statement}
    (h : ∀ name, statement.table? = some name → left.table? name = right.table? name) :
    (left.apply statement).outcome = (right.apply statement).outcome ∧
      (left.apply statement).events = (right.apply statement).events := by
  cases statement with
  | create name columns =>
    have hStored := h name rfl
    simp only [apply, create_run, hStored]
    cases right.table? name with
    | some table => exact ⟨rfl, rfl⟩
    | none => cases firstRepeated? [] (columns.map Column.name) <;> exact ⟨rfl, rfl⟩
  | insert name literals =>
    have hStored := h name rfl
    simp only [apply, insert_run, Database.table, hStored]
    cases right.table? name with
    | none => exact ⟨rfl, rfl⟩
    | some table => cases hRow : table.readRow literals <;> simp [hRow, Reply.failed]
  | select query =>
    have hStored := h query.table rfl
    simp only [apply, Database.table, hStored]
    cases right.table? query.table <;> exact ⟨rfl, rfl⟩
  | other kind => exact ⟨rfl, rfl⟩

theorem exchange_congr {text : String}
    (h : ∀ name, concerns name text = true → left.table? name = right.table? name) :
    left.exchange text = right.exchange text := by
  cases hStatement : Statement.ofText text with
  | error error => simp [exchange, execute, hStatement, Reply.failed]
  | ok statement =>
    obtain ⟨hOutcome, hEvents⟩ := apply_congr fun name hName =>
      h name (concerns_eq_true_iff.mpr ⟨statement, hStatement, hName⟩)
    simp [exchange, execute, hStatement, hOutcome, hEvents]

end

end Database

end TableStore
