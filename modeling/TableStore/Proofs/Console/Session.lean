import TableStore.Proofs.Console.Commands
import TableStore.Proofs.Database.Display
import TableStore.Proofs.Database.Growth

/-! # A session drives one store

A session takes entries up to the one that ends it. Each of them is printed for after a prompt of its
own, and only statements touch the store. So the session shows what the statements show when they are
run one after another on an empty store, and a command shows the store that the statements before it
have left.
-/

namespace TableStore.Console

open Text

set_option autoImplicit false

/-- The entries before the first one that ends the session. -/
def heard (entries : List Entry) : List Entry :=
  entries.takeWhile fun entry => !entry.ends

def statements (entries : List Entry) : List String :=
  entries.filterMap Entry.statement?

/-- An entry that does not end the session, with the text that is printed for it. -/
structure Printout where
  entry : Entry
  text : String

def Printout.statementText? (printout : Printout) : Option String :=
  printout.entry.statement?.map fun _ => printout.text

/-- What a session prints, entry by entry. -/
def printouts (database : Database) : List Entry → List Printout
  | [] => []
  | entry :: entries =>
    let first := turn database (.ofEntry entry)
    if first.finished then [] else ⟨entry, first.output⟩ :: printouts first.database entries

/-- What is printed for the statements of a session. -/
def statementTexts (entries : List Entry) : List String :=
  (printouts .empty entries).filterMap Printout.statementText?

/-- The end of the input closes the last prompt, an exit does not. -/
def closing (entries : List Entry) : String :=
  if entries.any Entry.ends then "" else "\n"

section

variable {entry : Entry} {database : Database}

theorem ofEntry_of_ends (h : entry.ends = true) : Input.ofEntry entry = .leave := by
  have hMeans := entry.means_ofEntry
  generalize Input.ofEntry entry = input at hMeans
  cases hMeans with
  | leave => rfl
  | statement hStays | command hStays | nothing hStays | interrupt hStays =>
    rw [h] at hStays
    cases hStays

theorem ofEntry_of_statement {text : String} (h : entry.ends = false) (hText : entry.statement? = some text) :
    Input.ofEntry entry = .statement text := by
  have hMeans := entry.means_ofEntry
  generalize Input.ofEntry entry = input at hMeans
  cases hMeans with
  | leave hEnds =>
    rw [h] at hEnds
    cases hEnds
  | statement _ hOther =>
    rw [hText] at hOther
    cases hOther
    rfl
  | command _ hNone | nothing _ hNone | interrupt _ hNone =>
    rw [hText] at hNone
    cases hNone

theorem ofEntry_of_command {command : Command} (h : entry.ends = false)
    (hCommand : entry.command? = some command) : Input.ofEntry entry = .command command := by
  have hMeans := entry.means_ofEntry
  generalize Input.ofEntry entry = input at hMeans
  cases hMeans with
  | leave hEnds =>
    rw [h] at hEnds
    cases hEnds
  | command _ _ hOther =>
    rw [hCommand] at hOther
    cases hOther
    rfl
  | statement _ _ hNone | nothing _ _ hNone | interrupt _ _ hNone =>
    rw [hCommand] at hNone
    cases hNone

theorem finished_turn (database : Database) (entry : Entry) :
    (turn database (.ofEntry entry)).finished = entry.ends := by
  have hMeans := entry.means_ofEntry
  generalize Input.ofEntry entry = input at hMeans ⊢
  cases hMeans with
  | leave hEnds =>
    rw [hEnds]
    rfl
  | statement hStays | command hStays | nothing hStays | interrupt hStays =>
    rw [hStays]
    rfl

/-- Only a statement touches the store or has events. -/
theorem turn_of_no_statement (h : entry.ends = false) (hNone : entry.statement? = none) :
    (turn database (.ofEntry entry)).database = database ∧ (turn database (.ofEntry entry)).events = [] := by
  have hMeans := entry.means_ofEntry
  generalize Input.ofEntry entry = input at hMeans ⊢
  cases hMeans with
  | leave hEnds =>
    rw [h] at hEnds
    cases hEnds
  | statement _ hText =>
    rw [hNone] at hText
    cases hText
  | command | nothing | interrupt => exact ⟨rfl, rfl⟩

theorem shows_of_no_statement (hDatabase : database.WellFormed) (h : entry.ends = false)
    (hNone : entry.statement? = none) : Shows database entry (turn database (.ofEntry entry)).output := by
  cases entry with
  | interrupt => exact .interrupt
  | line text =>
    by_cases hBlank : strip text = ""
    · rw [Input.ofEntry, Input.ofLine_of_blank hBlank]
      exact .blank hBlank
    · have hDot : (strip text).toList.head? = some '.' := by simpa [Entry.statement?, hBlank] using hNone
      have hCommand : (Entry.line text).command? = some (.ofPieces (pieces text)) := by
        simp [Entry.command?, hDot]
      rw [ofEntry_of_command h hCommand]
      rw [Entry.ends, Bool.or_eq_false_iff] at h
      exact shows_command hDatabase hDot h.2

theorem database_turn (h : entry.ends = false) :
    (turn database (.ofEntry entry)).database = database.executeAll (statements [entry]) := by
  cases hText : entry.statement? with
  | none =>
    rw [statements, List.filterMap_cons_none hText]
    exact (turn_of_no_statement h hText).1
  | some text =>
    rw [statements, List.filterMap_cons_some hText, ofEntry_of_statement h hText]
    exact Database.run_database database text

end

section

variable {prompt : String} {database : Database} {entry : Entry} {entries : List Entry}

theorem heard_of_ends (h : entry.ends = true) : heard (entry :: entries) = [] :=
  List.takeWhile_cons_of_neg (by simp [h])

theorem heard_of_stays (h : entry.ends = false) : heard (entry :: entries) = entry :: heard entries :=
  List.takeWhile_cons_of_pos (by simp [h])

theorem statements_cons (entry : Entry) (entries : List Entry) :
    statements (entry :: entries) = statements [entry] ++ statements entries :=
  List.filterMap_append (l := [entry])

theorem converse_of_ends (h : entry.ends = true) :
    converse prompt database (entry :: entries) = ⟨prompt, [], database⟩ := by
  rw [converse, ofEntry_of_ends h, turn]
  simp

theorem converse_of_stays (h : entry.ends = false) :
    converse prompt database (entry :: entries) =
      let first := turn database (.ofEntry entry)
      let others := converse prompt first.database entries
      ⟨prompt ++ first.output ++ others.output, first.events ++ others.events, others.database⟩ := by
  rw [converse, finished_turn, h]
  rfl

theorem printouts_of_ends (h : entry.ends = true) : printouts database (entry :: entries) = [] := by
  rw [printouts, finished_turn, h]
  rfl

theorem printouts_of_stays (h : entry.ends = false) :
    printouts database (entry :: entries) =
      let first := turn database (.ofEntry entry)
      ⟨entry, first.output⟩ :: printouts first.database entries := by
  rw [printouts, finished_turn, h]
  rfl

/-- A prompt stands before each printout, and one more stands at the end. -/
theorem output_converse (prompt : String) (database : Database) (entries : List Entry) :
    (converse prompt database entries).output =
      String.join ((printouts database entries).map fun printout => prompt ++ printout.text) ++
        (prompt ++ closing entries) := by
  induction entries generalizing database with
  | nil => simp [converse, printouts, closing]
  | cons entry entries ih =>
    cases hEnds : entry.ends with
    | true =>
      rw [converse_of_ends hEnds, printouts_of_ends hEnds]
      simp [closing, hEnds]
    | false =>
      have hClosing : closing (entry :: entries) = closing entries := by simp [closing, hEnds]
      rw [converse_of_stays hEnds, printouts_of_stays hEnds, hClosing]
      simp only [ih, List.map_cons, String.join_cons, String.append_assoc]

theorem database_converse (prompt : String) (database : Database) (entries : List Entry) :
    (converse prompt database entries).database = database.executeAll (statements (heard entries)) := by
  induction entries generalizing database with
  | nil => rfl
  | cons entry entries ih =>
    cases hEnds : entry.ends with
    | true =>
      rw [converse_of_ends hEnds, heard_of_ends hEnds]
      rfl
    | false =>
      rw [converse_of_stays hEnds, heard_of_stays hEnds, statements_cons, Database.executeAll_append,
        ← database_turn hEnds]
      exact ih _

theorem map_entry_printouts (database : Database) (entries : List Entry) :
    (printouts database entries).map Printout.entry = heard entries := by
  induction entries generalizing database with
  | nil => rfl
  | cons entry entries ih =>
    cases hEnds : entry.ends with
    | true => rw [printouts_of_ends hEnds, heard_of_ends hEnds, List.map_nil]
    | false => rw [printouts_of_stays hEnds, heard_of_stays hEnds, List.map_cons, ih]

/-- By induction on the printouts before it: each adds its statement, if it is one, to the store. -/
theorem turn_of_printout {before after : List Printout} {printout : Printout}
    (h : printouts database entries = before ++ printout :: after) :
    printout.entry.ends = false ∧
      printout.text = (turn (database.executeAll (statements (before.map Printout.entry)))
        (.ofEntry printout.entry)).output := by
  induction before generalizing database entries with
  | nil =>
    cases entries with
    | nil => cases h
    | cons entry entries =>
      cases hEnds : entry.ends with
      | true =>
        rw [printouts_of_ends hEnds] at h
        cases h
      | false =>
        rw [printouts_of_stays hEnds] at h
        cases h
        exact ⟨hEnds, rfl⟩
  | cons first before ih =>
    cases entries with
    | nil => cases h
    | cons entry entries =>
      cases hEnds : entry.ends with
      | true =>
        rw [printouts_of_ends hEnds] at h
        cases h
      | false =>
        rw [printouts_of_stays hEnds, List.cons_append] at h
        obtain ⟨rfl, hOthers⟩ := List.cons.inj h
        rw [List.map_cons, statements_cons, Database.executeAll_append, ← database_turn hEnds]
        exact ih hOthers

/-- The store that an entry sees is well formed, since only statements have led to it. -/
theorem shows_of_printout {before after : List Printout} {printout : Printout}
    (h : printouts .empty entries = before ++ printout :: after) (hNone : printout.entry.statement? = none) :
    Shows (Database.empty.executeAll (statements (before.map Printout.entry))) printout.entry
      printout.text := by
  obtain ⟨hStays, hText⟩ := turn_of_printout h
  rw [hText]
  exact shows_of_no_statement (Database.wellFormed_of_empty _) hStays hNone

/-- By induction on the entries: a statement shows its text, any other entry leaves the store alone. -/
theorem filterMap_statementText? {shown : List String}
    (h : database.runAll (statements (heard entries)) = shown.map .ok) :
    (printouts database entries).filterMap Printout.statementText? = shown.map (· ++ "\n") := by
  induction entries generalizing database shown with
  | nil =>
    rw [List.map_eq_nil_iff.mp h.symm]
    rfl
  | cons entry entries ih =>
    cases hEnds : entry.ends with
    | true =>
      rw [heard_of_ends hEnds] at h
      rw [printouts_of_ends hEnds, List.map_eq_nil_iff.mp h.symm]
      rfl
    | false =>
      rw [heard_of_stays hEnds, statements] at h
      rw [printouts_of_stays hEnds]
      cases hText : entry.statement? with
      | none =>
        have hSilent : ∀ output, Printout.statementText? ⟨entry, output⟩ = none := by
          simp [Printout.statementText?, hText]
        rw [List.filterMap_cons_none hText] at h
        dsimp only
        rw [List.filterMap_cons_none (hSilent _), (turn_of_no_statement hEnds hText).1]
        exact ih h
      | some text =>
        rw [List.filterMap_cons_some hText, Database.runAll] at h
        obtain ⟨first, others, rfl, hFirst, hOthers⟩ := List.map_eq_cons_iff.mp h.symm
        have hOutput : displayText (database.run text) = first ++ "\n" := by rw [displayText, ← hFirst]
        have hShown : Printout.statementText? ⟨entry, first ++ "\n"⟩ = some (first ++ "\n") := by
          simp [Printout.statementText?, hText]
        rw [ofEntry_of_statement hEnds hText, turn, hOutput, List.filterMap_cons_some hShown,
          List.map_cons]
        exact congrArg ((first ++ "\n") :: ·) (ih hOthers.symm)

/-- An entry that ends the session is the last that it takes. -/
theorem converse_append_of_ends {ending : Entry} (h : ending.ends = true) (before after : List Entry) :
    converse prompt database (before ++ ending :: after) =
      converse prompt database (before ++ [ending]) := by
  induction before generalizing database with
  | nil =>
    rw [List.nil_append, List.nil_append, converse_of_ends h, converse_of_ends h]
  | cons entry before ih =>
    rw [List.cons_append, List.cons_append]
    cases hEnds : entry.ends with
    | true => rw [converse_of_ends hEnds, converse_of_ends hEnds]
    | false =>
      rw [converse_of_stays hEnds, converse_of_stays hEnds]
      simp only [ih]

theorem statements_heard_filter (entries : List Entry) :
    statements (heard (entries.filter fun entry => !entry.isIdle)) = statements (heard entries) := by
  induction entries with
  | nil => rfl
  | cons entry entries ih =>
    cases hIdle : entry.isIdle with
    | true =>
      have hStays := Entry.ends_of_isIdle hIdle
      rw [List.filter_cons_of_neg (by simp [hIdle]), heard_of_stays hStays, ih, statements, statements,
        List.filterMap_cons_none (Entry.statement?_of_isIdle hIdle)]
    | false =>
      rw [List.filter_cons_of_pos (by simp [hIdle])]
      cases hEnds : entry.ends with
      | true => rw [heard_of_ends hEnds, heard_of_ends hEnds]
      | false =>
        rw [heard_of_stays hEnds, heard_of_stays hEnds, statements_cons, ih, ← statements_cons]

theorem exists_statementTexts (entries : List Entry) :
    ∃ shown : List String, Database.empty.runAll (statements (heard entries)) = shown.map .ok ∧
      statementTexts entries = shown.map (· ++ "\n") := by
  obtain ⟨shown, hShown⟩ := Database.WellFormed.empty.exists_texts_of_runAll (statements (heard entries))
  exact ⟨shown, hShown, filterMap_statementText? hShown⟩

/-- The statements of a session determine what it prints for them. -/
theorem statementTexts_congr {others : List Entry}
    (h : statements (heard others) = statements (heard entries)) :
    statementTexts others = statementTexts entries := by
  obtain ⟨shown, hShown, hTexts⟩ := exists_statementTexts entries
  rw [← h] at hShown
  exact (filterMap_statementText? hShown).trans hTexts.symm

end

/-- The outcome of a session that drives one store with the statements among its entries. -/
structure DrivesDatabase (prompt : String) (entries : List Entry) (outcome : Outcome) : Prop where
  exitCode_eq : outcome.exitCode = 0
  /-- One prompt stands before each printout and one at the end. -/
  output_eq : outcome.output = greeting ++
    (String.join ((printouts .empty entries).map fun printout => prompt ++ printout.text) ++
      (prompt ++ closing entries))
  entries_heard : (printouts .empty entries).map Printout.entry = heard entries
  /-- Statements print what running them in order shows, each with a line feed. -/
  statements_shown : ∃ shown : List String,
    Database.empty.runAll (statements (heard entries)) = shown.map .ok ∧
      statementTexts entries = shown.map (· ++ "\n")
  /-- Any other entry tells of the store after the statements before it. -/
  commands_shown : ∀ before printout after, printouts .empty entries = before ++ printout :: after →
    printout.entry.statement? = none →
    Shows (Database.empty.executeAll (statements (before.map Printout.entry))) printout.entry printout.text
  database_eq : (converse prompt .empty entries).database =
    Database.empty.executeAll (statements (heard entries))

/-- The console drives one store. Nothing after the end of the session counts, and neither do idle
entries for the statements and the store. -/
theorem session_drives_database (format : Event → String) {arguments : List String} {prompt : String}
    {threshold : Level} (h : Request.ofArguments arguments = .ok (.converse prompt threshold))
    (entries : List Entry) :
    DrivesDatabase prompt entries (sessionWith format arguments entries) ∧
      (∀ before ending after, entries = before ++ ending :: after → ending.ends = true →
        sessionWith format arguments entries = sessionWith format arguments (before ++ [ending])) ∧
      ∀ others, (others.filter fun entry => !entry.isIdle) = (entries.filter fun entry => !entry.isIdle) →
        statementTexts others = statementTexts entries ∧
          (converse prompt .empty others).database = (converse prompt .empty entries).database := by
  refine ⟨?_, ?_, ?_⟩
  · simp only [sessionWith, h]
    exact {
      exitCode_eq := rfl
      output_eq := congrArg (greeting ++ ·) (output_converse prompt .empty entries)
      entries_heard := map_entry_printouts .empty entries
      statements_shown := exists_statementTexts entries
      commands_shown := fun _ _ _ hSplit hNone => shows_of_printout hSplit hNone
      database_eq := database_converse prompt .empty entries }
  · rintro before ending after rfl hEnds
    simp only [sessionWith, h, converse_append_of_ends hEnds before after]
  · intro others hOthers
    have hStatements : statements (heard others) = statements (heard entries) := by
      rw [← statements_heard_filter others, hOthers, statements_heard_filter]
    rw [database_converse, database_converse, hStatements]
    exact ⟨statementTexts_congr hStatements, rfl⟩

/-- Statements among commands, an interrupt and a blank line, until the session is left. -/
theorem session_of_mixed_entries :
    let create := Entry.line " CREATE TABLE t (a INT) "
    let insert := Entry.line "INSERT INTO t (007)"
    let select := Entry.line "SELECT * FROM t;"
    let leave := Entry.line "\t.QuIt now"
    let entries := [.line ".schema t", create, .interrupt, .line "\u3000", .line ".TABLES", insert,
      .line ".schema t", select, leave, .line ".help"]
    let arguments := ["--pro", "sql> ", "-vv"]
    Request.ofArguments arguments = .ok (.converse "sql> " .debug) ∧
      DrivesDatabase "sql> " entries (session "now" arguments entries) ∧
      session "now" arguments entries = session "now" arguments (entries.take 9) ∧
      (printouts .empty entries).map Printout.text = ["Table not found: t\n",
        "Table t created successfully with 1 columns.\n", "\n", "", "t\n", "Data inserted successfully.\n",
        "TABLE t (1 rows)\n  - a INT\n", "7\n"] ∧
      statementTexts entries = ["Table t created successfully with 1 columns.\n",
        "Data inserted successfully.\n", "7\n"] ∧
      statementTexts [create, insert, select, leave] = statementTexts entries := by
  intro create insert select leave entries arguments
  have hArguments : Request.ofArguments arguments = .ok (.converse "sql> " .debug) := by decide +kernel
  obtain ⟨hDrives, hEnd, hIdle⟩ := session_drives_database (Event.line "now") hArguments entries
  have hLeave : leave.ends = true := by decide +kernel
  have hOthers : ([create, insert, select, leave].filter fun entry => !entry.isIdle) =
      entries.filter fun entry => !entry.isIdle := by decide +kernel
  exact ⟨hArguments, hDrives, hEnd (entries.take 8) leave [.line ".help"] rfl hLeave, by decide +kernel,
    by decide +kernel, (hIdle _ hOthers).1⟩

end TableStore.Console
