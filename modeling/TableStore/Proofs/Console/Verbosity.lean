import TableStore.Proofs.Console.Options
import TableStore.Proofs.Console.Session
import TableStore.Proofs.Database.Classification
import TableStore.Proofs.Database.Exchange

/-! # Verbosity

The threshold of the log selects events and does nothing else. All of them are logged if the session is
verbose, none if it is quiet, and otherwise there is one line for each query that was answered without
its condition.
-/

namespace TableStore

set_option autoImplicit false

def Statement.condition? : Statement → Option String
  | select query => query.condition
  | create _ _ | insert _ _ | other _ => none

namespace Exchange

def ignoresCondition (exchange : Exchange) : Bool :=
  exchange.outcome.toOption.any Answer.ignoresCondition

/-- The condition of the query, empty if there is none. -/
def condition (exchange : Exchange) : String :=
  ((Statement.ofText exchange.text).toOption.bind Statement.condition?).getD ""

end Exchange

namespace Database

variable {database : Database} {text : String}

theorem warnings_of_ignoresCondition (h : (database.exchange text).ignoresCondition = true) :
    warnings (database.execute text).events =
      [.conditionIgnored (database.exchange text).condition] := by
  have hStep := execute_step database text
  have hOutcome : (database.execute text).outcome.toOption.any Answer.ignoresCondition = true := h
  generalize (database.execute text).outcome = outcome at hStep hOutcome
  generalize (database.execute text).database = changed at hStep
  cases hStep with
  | failed | created | inserted => cases hOutcome
  | @found query table answer hStatement hTable hAnswer =>
    have hIgnored : answer.conditionUse = .ignored := eq_of_beq hOutcome
    obtain ⟨condition, hCondition⟩ :=
      Option.isSome_iff_exists.mp ((Table.conditionUse_eq_ignored_iff hAnswer).mp hIgnored)
    have hSame : (database.exchange text).condition = condition := by
      rw [Exchange.condition, exchange, hStatement]
      exact congrArg (Option.getD · "") (Option.filter_eq_some_iff.mp hCondition).1
    rw [warnings_of_select hStatement hTable, hCondition, hSame]
    rfl

theorem warnings_exchange (database : Database) (text : String) :
    warnings (database.execute text).events =
      ([database.exchange text].filter Exchange.ignoresCondition).map fun exchange =>
        .conditionIgnored exchange.condition := by
  cases hIgnores : (database.exchange text).ignoresCondition with
  | true =>
    rw [List.filter_cons_of_pos hIgnores]
    exact warnings_of_ignoresCondition hIgnores
  | false =>
    rw [List.filter_cons_of_neg (by simp [hIgnores])]
    have hLength := (length_warnings_execute database text).trans (if_neg (Bool.eq_false_iff.mp hIgnores))
    exact List.length_eq_zero_iff.mp hLength

end Database

namespace Console

/-- By induction on the entries: only statements have events. -/
theorem warnings_converse (prompt : String) (database : Database) (entries : List Entry) :
    warnings (converse prompt database entries).events =
      ((database.exchanges (statements (heard entries))).filter Exchange.ignoresCondition).map
        fun exchange => .conditionIgnored exchange.condition := by
  induction entries generalizing database with
  | nil => rfl
  | cons entry entries ih =>
    cases hEnds : entry.ends with
    | true =>
      rw [converse_of_ends hEnds, heard_of_ends hEnds]
      rfl
    | false =>
      rw [converse_of_stays hEnds, heard_of_stays hEnds, statements_cons, Database.exchanges_append,
        ← database_turn hEnds, List.filter_append, List.map_append, ← ih]
      dsimp only
      rw [warnings_append]
      congr 1
      cases hText : entry.statement? with
      | none =>
        rw [(turn_of_no_statement hEnds hText).2, statements, List.filterMap_cons_none hText]
        rfl
      | some text =>
        rw [ofEntry_of_statement hEnds hText, statements, List.filterMap_cons_some hText]
        exact (Database.warnings_run database text).trans (Database.warnings_exchange database text)

/-- One line for each event. -/
def logLines (format : Event → String) (events : List Event) : String :=
  linesText (events.map format)

section

variable (format : Event → String) (events : List Event)

theorem logText_debug : logText format .debug events = logLines format events := by
  have hAll : ∀ event : Event, decide (Level.debug.rank ≤ event.level.rank) = true :=
    fun event => decide_eq_true (Nat.zero_le _)
  simp only [logText, logLines, hAll, List.filter_true]

theorem logText_warning : logText format .warning events = logLines format (warnings events) := by
  have hLevels : ∀ event : Event,
      decide (Level.warning.rank ≤ event.level.rank) = (event.level == .warning) := by
    intro event
    cases event <;> rfl
  simp only [logText, logLines, warnings, hLevels]

/-- No event is an error of the program. -/
theorem logText_error : logText format .error events = "" := by
  have hNone : ∀ event : Event, decide (Level.error.rank ≤ event.level.rank) = false := by
    intro event
    cases event <;> rfl
  simp only [logText, hNone, List.filter_false, List.map_nil]
  rfl

end

/-- With the same prompt and entries, verbose, plain and quiet sessions differ in the log alone, and the
plain one logs the warnings: one for each query that was answered without its condition. -/
theorem verbosity_only_filters_log (format : Event → String) {arguments : List String} {prompt : String}
    (h : Request.ofArguments arguments = .ok (.converse prompt .warning)) (entries : List Entry) :
    (∀ option ∈ Switch.verbose.spellings,
      Request.ofArguments (arguments ++ [option]) = .ok (.converse prompt .debug)) ∧
    (∀ option ∈ Switch.quiet.spellings,
      Request.ofArguments (arguments ++ [option]) = .ok (.converse prompt .error)) ∧
    ∀ loud silent, Request.ofArguments loud = .ok (.converse prompt .debug) →
      Request.ofArguments silent = .ok (.converse prompt .error) →
      let plain := sessionWith format arguments entries
      let verbose := sessionWith format loud entries
      let quiet := sessionWith format silent entries
      let records := (converse prompt .empty entries).events
      (verbose.exitCode = plain.exitCode ∧ quiet.exitCode = plain.exitCode) ∧
      (verbose.output = plain.output ∧ quiet.output = plain.output) ∧
      quiet.errorOutput = "" ∧
      verbose.errorOutput = logLines format records ∧
      plain.errorOutput = logLines format (warnings records) ∧
      warnings records =
        ((Database.empty.exchanges (statements (heard entries))).filter Exchange.ignoresCondition).map
          fun exchange => .conditionIgnored exchange.condition := by
  refine ⟨fun option hOption => ofArguments_append_switch h (.inl rfl) hOption,
    fun option hOption => ofArguments_append_switch h (.inr rfl) hOption, ?_⟩
  intro loud silent hLoud hSilent
  simp only [sessionWith, h, hLoud, hSilent, logText_debug, logText_warning, logText_error,
    warnings_converse, and_self]

/-- Of four queries one is answered without its condition: the others have one that applies, or fail, or
come after the exit line. -/
theorem log_of_ignored_condition :
    let entries : List Entry := [.line "CREATE TABLE t (a INT)", .line "SELECT * FROM t WHERE a",
      .interrupt, .line "SELECT * FROM u WHERE a", .line "SELECT * FROM t WHERE a = 1", .line "EXIT;",
      .line "SELECT * FROM t WHERE b"]
    let run (options : List String) := session "now" ("--prompt=% " :: options) entries
    Request.ofArguments ["--prompt=% "] = .ok (.converse "% " .warning) ∧
      (run ["--verbose"]).output = (run []).output ∧ (run ["-q"]).output = (run []).output ∧
      (run ["-q"]).errorOutput = "" ∧
      (run []).errorOutput = "\x1b[33mnow:WARNING:tabledb.exec.executor: WHERE clause 'a' is not of the " ++
        "form 'column op value'; ignoring it\x1b[0m\n" := by
  intro entries run
  have hPrompt : Request.ofArguments ["--prompt=% "] = .ok (.converse "% " .warning) :=
    ofArguments_prompt "% "
  obtain ⟨hVerbose, hQuiet, hRuns⟩ := verbosity_only_filters_log (Event.line "now") hPrompt entries
  obtain ⟨-, ⟨hLoudOutput, hSilentOutput⟩, hSilent, -, hPlain, hWarnings⟩ :=
    hRuns _ _ (hVerbose "--verbose" (by decide)) (hQuiet "-q" (by decide))
  refine ⟨hPrompt, hLoudOutput, hSilentOutput, hSilent, hPlain.trans ?_⟩
  rw [hWarnings]
  decide +kernel

end Console

end TableStore
