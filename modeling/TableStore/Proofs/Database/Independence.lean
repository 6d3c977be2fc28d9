import TableStore.Proofs.Database.Exchange
import TableStore.Proofs.Database.Growth

/-! # Independence of tables

What the statements on other tables do cannot be told from the statements on one table: left out, they
change neither its exchanges nor what is stored under its name. So statements on different tables may
change places.
-/

namespace TableStore

set_option autoImplicit false

namespace Database

variable {database left right : Database} {name text : String}

theorem table?_append_entry (entries : List (String × Table)) (key name : String) (table : Table) :
    table? ⟨entries ++ [(key, table)]⟩ name =
      (table? ⟨entries⟩ name).or (if name = key then some table else none) := by
  rw [table?, List.lookup_append, List.lookup_cons]
  by_cases hName : name = key
  · simp [table?, hName]
  · simp [table?, hName, beq_false_of_ne hName]

theorem table?_execute_of_other (h : concerns name text = false) :
    (database.execute text).database.table? name = database.table? name := by
  have hOther : ∀ statement, Statement.ofText text = .ok statement → statement.table? ≠ some name := by
    intro statement hStatement hName
    rw [concerns_eq_true_iff.mpr ⟨statement, hStatement, hName⟩] at h
    cases h
  have hStep := execute_step database text
  generalize (database.execute text).outcome = outcome at hStep
  generalize (database.execute text).database = changed at hStep ⊢
  cases hStep with
  | failed => rfl
  | found => rfl
  | @created key columns hStatement _ _ =>
    have hKey : name ≠ key := by
      rintro rfl
      exact hOther _ hStatement rfl
    rw [table?_append_entry, if_neg hKey, Option.or_none]
  | @inserted key literals table row hStatement _ _ =>
    have hKey : name ≠ key := by
      rintro rfl
      exact hOther _ hStatement rfl
    simp [table?_append, hKey]

/-- A statement that names the table looks at what is stored under the name, and at nothing else. -/
theorem table?_apply_congr {statement : Statement} (hName : statement.table? = some name)
    (h : left.table? name = right.table? name) :
    (left.apply statement).database.table? name = (right.apply statement).database.table? name := by
  cases statement with
  | create key columns =>
    obtain rfl := Option.some.inj hName
    cases hStored : right.table? key with
    | some table => simp [apply, create_run, h, hStored, Reply.failed]
    | none =>
      cases hRepeated : firstRepeated? [] (columns.map Column.name) with
      | some column => simp [apply, create_run, h, hStored, hRepeated, Reply.failed]
      | none => simp [apply, create_run, h, hStored, hRepeated, table?_append_entry]
  | insert key literals =>
    obtain rfl := Option.some.inj hName
    cases hStored : right.table? key with
    | none => simp [apply, insert_run, Database.table, h, hStored, Reply.failed]
    | some table =>
      cases hRow : table.readRow literals with
      | error error => simp [apply, insert_run, Database.table, h, hStored, hRow, Reply.failed]
      | ok row => simp [apply, insert_run, Database.table, h, hStored, hRow, table?_append]
  | select query =>
    obtain rfl := Option.some.inj hName
    cases hStored : right.table? query.table <;> simp [apply, Database.table, h, hStored, Reply.failed]
  | other kind => cases hName

theorem table?_execute_congr (h : left.table? name = right.table? name) (text : String) :
    (left.execute text).database.table? name = (right.execute text).database.table? name := by
  cases hConcerns : concerns name text with
  | false => rw [table?_execute_of_other hConcerns, table?_execute_of_other hConcerns, h]
  | true =>
    obtain ⟨statement, hStatement, hName⟩ := concerns_eq_true_iff.mp hConcerns
    simp only [execute, hStatement]
    exact table?_apply_congr hName h

/-- By induction on the statements, for two stores that hold the same under the name: both carry out a
statement on the table, and only the first one carries out another statement. -/
theorem exchanges_filter (h : left.table? name = right.table? name) (texts : List String) :
    ((left.exchanges texts).filter fun exchange => concerns name exchange.text) =
        right.exchanges (texts.filter (concerns name)) ∧
      (left.executeAll texts).table? name =
        (right.executeAll (texts.filter (concerns name))).table? name := by
  induction texts generalizing left right with
  | nil => exact ⟨rfl, h⟩
  | cons text texts ih =>
    cases hConcerns : concerns name text with
    | false =>
      have hStep : (left.execute text).database.table? name = right.table? name :=
        (table?_execute_of_other hConcerns).trans h
      obtain ⟨hExchanges, hTable⟩ := ih hStep
      rw [List.filter_cons_of_neg (by simp [hConcerns])]
      refine ⟨?_, hTable⟩
      rw [exchanges, List.filter_cons_of_neg (by simp [exchange, hConcerns]), hExchanges]
    | true =>
      obtain ⟨hExchanges, hTable⟩ := ih (table?_execute_congr h text)
      have hSame : left.exchange text = right.exchange text := by
        refine exchange_congr fun key hKey => ?_
        rw [eq_of_concerns hKey hConcerns, h]
      rw [List.filter_cons_of_pos hConcerns]
      refine ⟨?_, hTable⟩
      rw [exchanges, List.filter_cons_of_pos (by simpa [exchange] using hConcerns), hExchanges, hSame]
      rfl

theorem exchanges_congr (h : ∀ name, left.table? name = right.table? name) (texts : List String) :
    left.exchanges texts = right.exchanges texts := by
  induction texts generalizing left right with
  | nil => rfl
  | cons text texts ih =>
    have hOthers := ih fun name => table?_execute_congr (h name) text
    rw [exchanges, exchanges, hOthers, exchange_congr fun name _ => h name]

/-- Two stores that hold the same under every name differ in the order of their tables at most. -/
theorem WellFormed.perm_of_table?_eq (hLeft : left.WellFormed) (hRight : right.WellFormed)
    (h : ∀ name, left.table? name = right.table? name) : left.entries.Perm right.entries := by
  refine (List.perm_ext_iff_of_nodup hLeft.keys_nodup.of_map hRight.keys_nodup.of_map).mpr ?_
  rintro ⟨name, table⟩
  rw [← hLeft.table?_eq_some_iff, ← hRight.table?_eq_some_iff, h name]

section

variable {other first second : String}

theorem exchange_execute_of_other (hFirst : concerns name first = true)
    (hSecond : concerns other second = true) (hNames : name ≠ other) (database : Database) :
    (database.execute first).database.exchange second = database.exchange second := by
  refine exchange_congr fun key hKey => table?_execute_of_other ?_
  rw [Bool.eq_false_iff]
  intro hBoth
  exact hNames ((eq_of_concerns hFirst hBoth).trans (eq_of_concerns hKey hSecond))

theorem exchanges_swap (hFirst : concerns name first = true) (hSecond : concerns other second = true)
    (hNames : name ≠ other) (database : Database) :
    database.exchanges [second, first] = (database.exchanges [first, second]).reverse := by
  simp only [exchanges, List.reverse_cons, List.reverse_nil, List.nil_append, List.cons_append,
    exchange_execute_of_other hFirst hSecond hNames,
    exchange_execute_of_other hSecond hFirst hNames.symm]

/-- Under each name only one of the two statements does anything, if any does. -/
theorem table?_swap (hFirst : concerns name first = true) (hSecond : concerns other second = true)
    (hNames : name ≠ other) (database : Database) (key : String) :
    (database.executeAll [first, second]).table? key =
      (database.executeAll [second, first]).table? key := by
  change ((database.execute first).database.execute second).database.table? key =
    ((database.execute second).database.execute first).database.table? key
  cases hKey : concerns key first with
  | false =>
    rw [table?_execute_of_other hKey]
    exact table?_execute_congr (table?_execute_of_other hKey) second
  | true =>
    have hKeySecond : concerns key second = false := by
      rw [Bool.eq_false_iff]
      intro hBoth
      exact hNames ((eq_of_concerns hFirst hKey).trans (eq_of_concerns hBoth hSecond))
    rw [table?_execute_of_other hKeySecond]
    exact (table?_execute_congr (table?_execute_of_other hKeySecond) first).symm

end

/-- Left alone, the statements on one table are answered as they are among all others, with the same
events, and leave the same table. Two statements on different tables may be executed in either order:
each is answered alike, and nothing that follows can tell which came first. -/
theorem tables_do_not_interfere (texts : List String) (name : String) :
    let database := empty.executeAll texts
    let kept := texts.filter (concerns name)
    ((empty.exchanges texts).filter fun exchange => concerns name exchange.text) =
        empty.exchanges kept ∧
      database.table? name = (empty.executeAll kept).table? name ∧
      ∀ first second other, concerns name first = true → concerns other second = true →
        name ≠ other →
        database.exchanges [second, first] = (database.exchanges [first, second]).reverse ∧
        (database.executeAll [second, first]).entries.Perm
          (database.executeAll [first, second]).entries ∧
        ∀ others, (database.executeAll [second, first]).exchanges others =
          (database.executeAll [first, second]).exchanges others := by
  intro database kept
  have hNothing : empty.table? name = empty.table? name := rfl
  obtain ⟨hExchanges, hTable⟩ := exchanges_filter hNothing texts
  refine ⟨hExchanges, hTable, fun first second other hFirst hSecond hNames => ?_⟩
  have hDatabase : database.WellFormed := wellFormed_of_empty texts
  have hSame : ∀ key, (database.executeAll [second, first]).table? key =
      (database.executeAll [first, second]).table? key :=
    table?_swap hSecond hFirst hNames.symm database
  exact ⟨exchanges_swap hFirst hSecond hNames database,
    (hDatabase.executeAll _).perm_of_table?_eq (hDatabase.executeAll _) hSame, exchanges_congr hSame⟩

/-- A text that is no statement, a failed insertion, and two creations whose tables change places. -/
theorem session_of_three_tables :
    let texts := ["CREATE TABLE t (a INT)", "CREATE TABLE u (b TEXT)", "INSERT INTO u ('x')",
      "INSERT INTO t ('x')", "INSERT INTO t (7)", "SELECT * FROM u", "SELECT * FROM", "SELECT * FROM t WHERE a"]
    let kept := ["CREATE TABLE t (a INT)", "INSERT INTO t ('x')", "INSERT INTO t (7)",
      "SELECT * FROM t WHERE a"]
    let database := empty.executeAll texts
    let first := "CREATE TABLE v (c INT)"
    let second := "CREATE TABLE w (c INT)"
    (empty.exchanges kept).map Exchange.text = kept ∧
      ((empty.exchanges texts).filter fun exchange => concerns "t" exchange.text) =
        empty.exchanges kept ∧
      database.table? "t" = (empty.executeAll kept).table? "t" ∧
      (concerns "v" first = true ∧ concerns "w" second = true) ∧
      database.exchanges [second, first] = (database.exchanges [first, second]).reverse ∧
      (database.executeAll [second, first]).entries ≠ (database.executeAll [first, second]).entries ∧
      (database.executeAll [second, first]).entries.Perm
        (database.executeAll [first, second]).entries := by
  intro texts kept database first second
  have hKept : texts.filter (concerns "t") = kept := by decide +kernel
  have hFirst : concerns "v" first = true := by decide +kernel
  have hSecond : concerns "w" second = true := by decide +kernel
  obtain ⟨hExchanges, hTable, -⟩ := tables_do_not_interfere texts "t"
  obtain ⟨-, -, hSwap⟩ := tables_do_not_interfere texts "v"
  obtain ⟨hReverse, hPerm, -⟩ := hSwap first second "w" hFirst hSecond (by decide)
  rw [hKept] at hExchanges hTable
  exact ⟨by decide +kernel, hExchanges, hTable, ⟨hFirst, hSecond⟩, hReverse, by decide +kernel, hPerm⟩

end Database

end TableStore
