import Mathlib.Data.List.TakeWhile
import TableStore.Console.Options

/-! # Options that follow

Arguments that are accepted leave nothing over and hold no bare pair of hyphens, so what follows them is
read as if they had been read before. That is why a switch for the log may be put behind them.
-/

namespace TableStore.Console

set_option autoImplicit false

/-- The ways to write a switch in full. -/
def Switch.spellings (switch : Switch) : List String :=
  switch.long :: (switch.letter?.map fun letter => String.ofList ['-', letter]).toList

/-- The threshold of the log that goes with a switch. -/
def Switch.threshold : Switch → Level
  | verbose => .debug
  | quiet => .error
  | help | prompt => .warning

section

variable {choices changed final : Choices} {arguments : List Argument} {switch : Switch}
  {prompt : String} {threshold : Level}

theorem Choices.request_eq_ok_iff :
    choices.request = .ok (.converse prompt threshold) ↔
      choices.leftOver = [] ∧ choices.prompt = prompt ∧ choices.threshold = threshold := by
  rw [request]
  split
  · next hEmpty => simp [List.isEmpty_iff.mp hEmpty]
  · next hLeft =>
    have hNonempty : choices.leftOver ≠ [] := by simpa using hLeft
    simp [hNonempty]

theorem Choices.threshold_eq_warning_iff :
    choices.threshold = .warning ↔ choices.verbose = false ∧ choices.quiet = false := by
  rw [threshold]
  cases choices.verbose <;> cases choices.quiet <;> decide

theorem leftOver_of_act {switches : List Switch} (h : act choices switches = .ok (some changed)) :
    changed.leftOver = choices.leftOver := by
  induction switches generalizing choices with
  | nil =>
    cases h
    rfl
  | cons switch switches ih =>
    cases switch with
    | help | prompt => cases h
    | verbose | quiet =>
      rw [act] at h
      split at h
      · cases h
      · have hOthers := ih h
        exact hOthers

theorem exists_of_bind_act {switches : List Switch}
    (h : (do
      match ← act choices switches with
      | none => return .help
      | some choices => readArguments choices arguments) =
        (.ok (.converse prompt threshold) : Except OptionError Request)) :
    ∃ changed, act choices switches = .ok (some changed) ∧
      readArguments changed arguments = .ok (.converse prompt threshold) := by
  cases hAct : act choices switches with
  | error error =>
    rw [hAct] at h
    cases h
  | ok result =>
    rw [hAct] at h
    cases result with
    | none => cases h
    | some changed => exact ⟨changed, rfl, h⟩

theorem readArguments_long (hSwitch : switch ≠ .prompt) (hAct : act choices [switch] = .ok (some changed)) :
    readArguments choices (.long switch none :: arguments) = readArguments changed arguments := by
  cases switch with
  | prompt => exact absurd rfl hSwitch
  | help | verbose | quiet =>
    rw [readArguments.eq_def]
    dsimp only
    rw [hAct]
    rfl

theorem readArguments_letters {value : Option String} {switches : List Switch}
    (hLetters : lettersOf switch value = .ok switches)
    (hAct : act choices switches = .ok (some changed)) :
    readArguments choices (.letters switch value :: arguments) = readArguments changed arguments := by
  rw [readArguments, hLetters]
  simp only [bind, Except.bind, hAct]

/-- The arguments lead from one state of the choices to another, and leave nothing over. -/
structure Leads (choices : Choices) (arguments : List Argument) (final : Choices) : Prop where
  leftOver_eq : choices.leftOver = final.leftOver
  no_separator : .separator ∉ arguments
  append : ∀ others, readArguments choices (arguments ++ others) = readArguments final others

theorem Leads.cons {argument : Argument} (h : Leads changed arguments final)
    (hLeft : changed.leftOver = choices.leftOver) (hArgument : argument ≠ .separator)
    (hRead : ∀ others, readArguments choices (argument :: others) = readArguments changed others) :
    Leads choices (argument :: arguments) final where
  leftOver_eq := hLeft.symm.trans h.leftOver_eq
  no_separator hMember := by
    rcases List.mem_cons.mp hMember with hFirst | hOther
    · exact hArgument hFirst.symm
    · exact h.no_separator hOther
  append others := by rw [List.cons_append, hRead, h.append]

/-- What is left over stays so, and is refused in the end. -/
theorem Leads.not_leave {text : String} (h : Leads (choices.leave text) arguments final)
    (hFinal : final.request = .ok (.converse prompt threshold)) : False := by
  have hLeft := h.leftOver_eq
  rw [(Choices.request_eq_ok_iff.mp hFinal).1] at hLeft
  simp [Choices.leave] at hLeft

/-- By induction along the reading of the arguments. -/
theorem exists_leads (h : readArguments choices arguments = .ok (.converse prompt threshold)) :
    ∃ final, Leads choices arguments final ∧ final.request = .ok (.converse prompt threshold) := by
  fun_induction readArguments choices arguments with
  | case1 choices => exact ⟨choices, ⟨rfl, List.not_mem_nil, fun _ => rfl⟩, h⟩
  | case2 choices text arguments ih | case3 choices text arguments ih | case4 choices arguments ih =>
    obtain ⟨final, hLeads, hFinal⟩ := ih h
    exact (hLeads.not_leave hFinal).elim
  | case5 choices value arguments ih =>
    obtain ⟨final, hLeads, hFinal⟩ := ih h
    exact ⟨final, hLeads.cons rfl (by simp) fun _ => rfl, hFinal⟩
  | case6 choices value arguments ih =>
    obtain ⟨final, hLeads, hFinal⟩ := ih h
    have hWord : Leads choices (.long .prompt none :: .word value :: arguments) final := {
      leftOver_eq := hLeads.leftOver_eq
      no_separator := by simpa using hLeads.no_separator
      append := fun others => hLeads.append others }
    exact ⟨final, hWord, hFinal⟩
  | case7 | case8 => cases h
  | case9 choices switch arguments _ hSwitch ih =>
    obtain ⟨changed, hAct, hRead⟩ := exists_of_bind_act h
    obtain ⟨final, hLeads, hFinal⟩ := ih changed hRead
    exact ⟨final, hLeads.cons (leftOver_of_act hAct) (by simp) fun _ => readArguments_long hSwitch hAct,
      hFinal⟩
  | case10 choices switch value arguments ih =>
    cases hLetters : lettersOf switch value with
    | error error =>
      rw [hLetters] at h
      cases h
    | ok switches =>
      rw [hLetters] at h
      obtain ⟨changed, hAct, hRead⟩ := exists_of_bind_act h
      obtain ⟨final, hLeads, hFinal⟩ := ih changed hRead
      exact ⟨final, hLeads.cons (leftOver_of_act hAct) (by simp)
        fun _ => readArguments_letters hLetters hAct, hFinal⟩

end

section

variable {texts : List String} {sorted : List Argument}

theorem sortArguments_cons {text : String} (h : text ≠ "--") (texts : List String) :
    sortArguments (text :: texts) = do
      let argument ← sortArgument text
      let arguments ← sortArguments texts
      return argument :: arguments := by
  rw [sortArguments.eq_def]
  split
  · next hNone => cases hNone
  · next hSeparator => exact absurd (List.cons.inj hSeparator).1 h
  · next hCons =>
    cases hCons
    rfl

theorem exists_of_sortArguments_cons {text : String} (h : text ≠ "--")
    (hSorted : sortArguments (text :: texts) = .ok sorted) :
    ∃ argument arguments, sortArgument text = .ok argument ∧ sortArguments texts = .ok arguments ∧
      sorted = argument :: arguments := by
  rw [sortArguments_cons h] at hSorted
  cases hFirst : sortArgument text with
  | error error =>
    rw [hFirst] at hSorted
    cases hSorted
  | ok argument =>
    cases hOthers : sortArguments texts with
    | error error =>
      rw [hFirst, hOthers] at hSorted
      cases hSorted
    | ok arguments =>
      rw [hFirst, hOthers] at hSorted
      cases hSorted
      exact ⟨argument, arguments, rfl, rfl, rfl⟩

theorem sortArguments_append {last : String} {argument : Argument}
    (h : sortArguments texts = .ok sorted) (hSeparator : .separator ∉ sorted) (hLast : last ≠ "--")
    (hArgument : sortArgument last = .ok argument) :
    sortArguments (texts ++ [last]) = .ok (sorted ++ [argument]) := by
  induction texts generalizing sorted with
  | nil =>
    cases h
    rw [List.nil_append, sortArguments_cons hLast, hArgument]
    rfl
  | cons text texts ih =>
    by_cases hText : text = "--"
    · rw [hText, sortArguments] at h
      cases h
      exact absurd List.mem_cons_self hSeparator
    · obtain ⟨first, arguments, hFirst, hOthers, rfl⟩ := exists_of_sortArguments_cons hText h
      rw [List.cons_append, sortArguments_cons hText, hFirst,
        ih hOthers fun hMember => hSeparator (List.mem_cons_of_mem _ hMember)]
      rfl

end

section

variable {switch : Switch} {text prompt value : String} {arguments : List String}

theorem act_verbosity {choices : Choices} (hSwitch : switch = .verbose ∨ switch = .quiet)
    (h : choices.request = .ok (.converse prompt .warning)) :
    ∃ changed, act choices [switch] = .ok (some changed) ∧
      changed.request = .ok (.converse prompt switch.threshold) := by
  obtain ⟨hLeft, hPrompt, hThreshold⟩ := Choices.request_eq_ok_iff.mp h
  obtain ⟨hVerbose, hQuiet⟩ := Choices.threshold_eq_warning_iff.mp hThreshold
  rcases hSwitch with rfl | rfl
  · refine ⟨{ choices with verbose := true }, by simp [act, hQuiet], ?_⟩
    exact Choices.request_eq_ok_iff.mpr ⟨hLeft, hPrompt, rfl⟩
  · refine ⟨{ choices with quiet := true }, by simp [act, hVerbose], ?_⟩
    have hError : Choices.threshold { choices with quiet := true } = .error := by
      simp [Choices.threshold, hVerbose]
    exact Choices.request_eq_ok_iff.mpr ⟨hLeft, hPrompt, hError⟩

/-- A switch without a value acts in the same way in both of its spellings. -/
theorem exists_of_mem_spellings (hSwitch : switch = .verbose ∨ switch = .quiet)
    (h : text ∈ switch.spellings) :
    text ≠ "--" ∧ ∃ argument, sortArgument text = .ok argument ∧
      ∀ choices changed, act choices [switch] = .ok (some changed) →
        readArguments choices [argument] = changed.request := by
  have hPrompt : switch ≠ .prompt := by
    rcases hSwitch with rfl | rfl <;> decide
  have hForms : ∀ text ∈ switch.spellings, text ≠ "--" ∧
      (sortArgument text = .ok (.long switch none) ∨ sortArgument text = .ok (.letters switch none)) := by
    rcases hSwitch with rfl | rfl <;> decide
  obtain ⟨hText, hLong | hLetters⟩ := hForms text h
  · exact ⟨hText, _, hLong, fun _ _ hAct => readArguments_long hPrompt hAct⟩
  · exact ⟨hText, _, hLetters, fun _ _ hAct => readArguments_letters rfl hAct⟩

/-- A switch for the log may follow any arguments that are accepted without one. -/
theorem ofArguments_append_switch (h : Request.ofArguments arguments = .ok (.converse prompt .warning))
    (hSwitch : switch = .verbose ∨ switch = .quiet) (hText : text ∈ switch.spellings) :
    Request.ofArguments (arguments ++ [text]) = .ok (.converse prompt switch.threshold) := by
  obtain ⟨hLast, argument, hArgument, hReads⟩ := exists_of_mem_spellings hSwitch hText
  rw [Request.ofArguments] at h ⊢
  cases hSorted : sortArguments arguments with
  | error error =>
    rw [hSorted] at h
    cases h
  | ok sorted =>
    rw [hSorted] at h
    obtain ⟨final, hLeads, hFinal⟩ := exists_leads h
    obtain ⟨changed, hAct, hChanged⟩ := act_verbosity hSwitch hFinal
    rw [sortArguments_append hSorted hLeads.no_separator hLast hArgument]
    exact (hLeads.append [argument]).trans ((hReads final changed hAct).trans hChanged)

/-- Whatever follows the equals sign is the prompt, save for two bare hyphens. -/
theorem ofArguments_prompt (value : String) :
    Request.ofArguments ["--prompt=" ++ value] = .ok (.converse (promptOf value) .warning) := by
  have hText : ("--prompt=" ++ value).toList = "--prompt".toList ++ '=' :: value.toList := by simp
  have hBefore : ∀ c ∈ "--prompt".toList, (c != '=') = true := List.all_eq_true.mp (by decide)
  have hCut : cutAtEquals ("--prompt=" ++ value).toList = ("--prompt", some value) := by
    rw [hText, cutAtEquals, List.dropWhile_append_of_pos hBefore, List.takeWhile_append_of_pos hBefore,
      List.dropWhile_cons_of_neg (by decide), List.takeWhile_cons_of_neg (by decide)]
    simp
  have hEquals : '=' ∈ ("--prompt=" ++ value).toList := by simp
  have hOther : ∀ text : String, '=' ∉ text.toList → text ≠ "--prompt=" ++ value := by
    rintro text hNone rfl
    exact hNone hEquals
  have hLong : Switch.ofLong? ("--prompt=" ++ value) = none := by
    rw [Switch.ofLong?, List.find?_eq_none]
    intro switch _ hSame
    refine hOther switch.long ?_ (eq_of_beq hSame)
    cases switch <;> decide
  have hSorted : sortArgument ("--prompt=" ++ value) = .ok (.long .prompt (some value)) := by
    have hHyphens : ("--prompt=" ++ value).toList = '-' :: '-' :: ("prompt=" ++ value).toList := by simp
    rw [sortArgument, hHyphens, sortLong, hCut, hLong]
    rfl
  have hSeparator : "--prompt=" ++ value ≠ "--" := (hOther "--" (by decide)).symm
  rw [Request.ofArguments, sortArguments_cons hSeparator, hSorted]
  rfl

end

end TableStore.Console
