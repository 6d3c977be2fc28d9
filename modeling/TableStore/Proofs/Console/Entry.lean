import TableStore.Console.Session
import TableStore.Proofs.Text.Lower
import TableStore.Proofs.Text.Pieces

/-! # Kinds of entries

An entry ends the session, is a statement, is a command to the console, or is passed over. Which of
these it is can be told from its text alone: the exit line is looked for first, and the first word of a
line starts as the line itself does.
-/

namespace TableStore.Console

open Text

set_option autoImplicit false

/-- The words that leave the session, in any case. -/
def leaves (word : String) : Bool :=
  lower word == ".exit" || lower word == ".quit"

namespace Entry

/-- The line exit; ends the session in any case, and so does a line whose first word leaves. -/
def ends : Entry → Bool
  | line text => lower (strip text) == "exit;" || (pieces text).head?.any leaves
  | interrupt => false

/-- The text of a line that is not blank and does not start with a dot. -/
def statement? : Entry → Option String
  | line text =>
    if (strip text).isEmpty || (strip text).toList.head? == some '.' then none else some (strip text)
  | interrupt => none

/-- The command of a line that starts with a dot. -/
def command? : Entry → Option Command
  | line text => if (strip text).toList.head? == some '.' then some (.ofPieces (pieces text)) else none
  | interrupt => none

/-- Blank lines, commands that do not leave, and interrupts. -/
def isIdle : Entry → Bool
  | line text =>
    ((strip text).isEmpty || (strip text).toList.head? == some '.') && !(line text).ends
  | interrupt => true

/-- What an entry is taken for. -/
inductive Means (entry : Entry) : Input → Prop
  | leave : entry.ends = true → Means entry .leave
  | statement {text : String} : entry.ends = false → entry.statement? = some text →
      entry.command? = none → Means entry (.statement text)
  | command {command : Command} : entry.ends = false → entry.statement? = none →
      entry.command? = some command → Means entry (.command command)
  | nothing : entry.ends = false → entry.statement? = none → entry.command? = none → Means entry .nothing
  | interrupt : entry.ends = false → entry.statement? = none → entry.command? = none →
      Means entry .interrupt

end Entry

theorem Command.ofPieces_eq_leave_iff {words : List String} :
    ofPieces words = .leave ↔ words.head?.any leaves = true := by
  cases words with
  | nil =>
    constructor
    · intro h
      cases h
    · intro h
      cases h
  | cons name words =>
    rw [ofPieces.eq_def, List.head?_cons, Option.any_some, leaves]
    dsimp only
    split
    · next hExit => simp [hExit]
    · next hQuit => simp [hQuit]
    · next hHelp => simp [hHelp]
    · next hTables => simp [hTables]
    · next hSchema =>
      rw [hSchema]
      split <;> simp
    · next hExit hQuit _ _ _ =>
      have hNeither : (lower name == ".exit" || lower name == ".quit") = false := by
        rw [Bool.or_eq_false_iff]
        exact ⟨beq_false_of_ne hExit, beq_false_of_ne hQuit⟩
      simp [hNeither]

/-- A word that leaves starts with a dot, since only the dot becomes one in lower case. -/
theorem head?_of_leaves {word : String} (h : leaves word = true) : word.toList.head? = some '.' := by
  apply head?_of_head?_lower
  rw [leaves, Bool.or_eq_true, beq_iff_eq, beq_iff_eq] at h
  rcases h with hExit | hQuit
  · rw [hExit]
    rfl
  · rw [hQuit]
    rfl

theorem Input.ofLine_of_blank {text : String} (h : strip text = "") : ofLine text = .nothing := by
  rw [ofLine, h]
  rfl

namespace Entry

theorem means_of_dot {text : String} (hExit : (lower (strip text) == "exit;") = false)
    {rest : List Char} (hText : (strip text).toList = '.' :: rest) :
    (line text).Means (.ofLine text) := by
  have hNonempty : (strip text).isEmpty = false := by simp [← String.toList_eq_nil_iff, hText]
  have hStatement : (line text).statement? = none := by simp [statement?, hText]
  have hCommand : (line text).command? = some (.ofPieces (pieces text)) := by simp [command?, hText]
  have hEnds : (line text).ends = (pieces text).head?.any leaves := by rw [ends, hExit, Bool.false_or]
  simp only [Input.ofLine, hExit, hNonempty, hText, List.head?_cons, beq_self_eq_true, pieces_strip,
    Bool.false_eq_true, if_false, if_true]
  split
  · next hLeave =>
    rw [Command.ofPieces_eq_leave_iff, ← hEnds] at hLeave
    exact .leave hLeave
  · next hOther =>
    rw [Command.ofPieces_eq_leave_iff, ← hEnds] at hOther
    exact .command (Bool.eq_false_iff.mpr hOther) hStatement hCommand

theorem means_of_other {text : String} (hExit : (lower (strip text) == "exit;") = false) {c : Char}
    {rest : List Char} (hText : (strip text).toList = c :: rest) (hFirst : c ≠ '.') :
    (line text).Means (.ofLine text) := by
  have hNonempty : (strip text).isEmpty = false := by simp [← String.toList_eq_nil_iff, hText]
  obtain ⟨word, words, hPieces, hHead⟩ := exists_pieces_of_strip hText
  have hStays : leaves word = false := by
    rw [Bool.eq_false_iff]
    intro hLeaves
    rw [head?_of_leaves hLeaves] at hHead
    exact hFirst (Option.some.inj hHead).symm
  have hEnds : (line text).ends = false := by simp [ends, hExit, hPieces, hStays]
  have hInput : Input.ofLine text = .statement (strip text) := by
    simp [Input.ofLine, hExit, hNonempty, hText, hFirst]
  rw [hInput]
  exact .statement hEnds (by simp [statement?, hNonempty, hText, hFirst]) (by simp [command?, hText, hFirst])

/-- The exit line comes first, then blanks, then the dot. -/
theorem means_ofEntry (entry : Entry) : entry.Means (.ofEntry entry) := by
  cases entry with
  | interrupt => exact .interrupt rfl rfl rfl
  | line text =>
    rw [Input.ofEntry]
    cases hExit : lower (strip text) == "exit;" with
    | true =>
      have hInput : Input.ofLine text = .leave := by simp [Input.ofLine, hExit]
      rw [hInput]
      exact .leave (by simp [ends, hExit])
    | false =>
      cases hText : (strip text).toList with
      | nil =>
        have hBlank : strip text = "" := String.toList_eq_nil_iff.mp hText
        have hPieces : pieces text = [] := by
          rw [← pieces_strip, hBlank]
          rfl
        rw [Input.ofLine_of_blank hBlank]
        exact .nothing (by simp [ends, hExit, hPieces]) (by simp [statement?, hBlank])
          (by simp [command?, hBlank])
      | cons c rest =>
        by_cases hFirst : c = '.'
        · rw [hFirst] at hText
          exact means_of_dot hExit hText
        · exact means_of_other hExit hText hFirst

theorem statement?_of_isIdle {entry : Entry} (h : entry.isIdle = true) : entry.statement? = none := by
  cases entry with
  | interrupt => rfl
  | line text =>
    rw [isIdle, Bool.and_eq_true] at h
    rw [statement?, if_pos h.1]

theorem ends_of_isIdle {entry : Entry} (h : entry.isIdle = true) : entry.ends = false := by
  cases entry with
  | interrupt => rfl
  | line text =>
    rw [isIdle, Bool.and_eq_true] at h
    simpa using h.2

end Entry

end TableStore.Console
