import CmdletShell.Proofs.Lines.Trimmed
import CmdletShell.Proofs.Runs.Pipelines

/-!
# Empty stages

A stage without a character fails as a command without a name. But a line is trimmed before it is
cut, so only a stage between two separators is seen to be empty. Where the empty stage is the first,
or the last but one of two that are empty at the end, a bar is left, which names no command either
and fails as well (`execute_emptyStage`). Where only the last stage is empty nothing fails for that:
the bar is an argument of the stage before it.
-/

namespace CmdletShell.Proofs.Runs.EmptyStages

open CmdletShell.Interpreter CmdletShell.Line CmdletShell.Text
open CmdletShell.Proofs.Lines.Strip CmdletShell.Proofs.Lines.Stages
open CmdletShell.Proofs.Lines.Trimmed
open CmdletShell.Proofs.Runs.Actions CmdletShell.Proofs.Runs.Execution
open CmdletShell.Proofs.Runs.Pipelines

variable {interpreter reached : Interpreter} {line stage : Text} {before rest : List Text}
  {last : Result}

/-! ### Stages in turn -/

/-- What is reported before the first stage. -/
def start : Result := succeeded (.text []) 0

/-- **Stages in turn are the first ones in turn, then the others** unless one has failed. -/
theorem executeInTurn_append (hl : last.success = true) (before rest : List Text)
    (interpreter : Interpreter) : executeInTurn last (before ++ rest) interpreter =
      match executeInTurn last before interpreter with
      | (.ok result, reached) =>
        if result.success then executeInTurn result rest reached else (.ok result, reached)
      | (.error fault, reached) => (.error fault, reached) := by
  fun_induction executeInTurn last before interpreter with
  | case1 last interpreter => exact (if_pos hl).symm
  | case2 => rfl
  | case3 last stage more interpreter hne fault reached he =>
    rw [List.cons_append, executeInTurn, he]
    exact hne
  | case4 last stage more interpreter hne result reached he hs ih =>
    rw [List.cons_append, executeInTurn, he]
    · dsimp only
      rw [if_pos hs, ih hs]
    · exact hne
  | case5 last stage more interpreter hne result reached he hs =>
    rw [List.cons_append, executeInTurn, he]
    · dsimp only
      rw [if_neg hs, if_neg hs]
    · exact hne

/-- **What a line is reported as**, from the report of its last stage. -/
structure Retold (last result : Result) : Prop where
  success_eq : result.success = last.success
  output_eq : result.output = if last.success then last.output else .str []
  error_eq : result.error = last.error

/-- A line puts out what its stages do and fails as they do, also if it is one stage only. -/
theorem runLine_stages (registry : Registry) (context : Context) (hl : strip line = line)
    (state : State) :
    ((runStages (runNumbered registry context (stages line).length) (.str [])
      (stages line).zipIdx).run state).result =
        ((runLine registry context line).run state).result.map (·.output) ∧
    ((runStages (runNumbered registry context (stages line).length) (.str [])
      (stages line).zipIdx).run state).state =
        ((runLine registry context line).run state).state := by
  unfold runLine
  split
  · unfold runPipeline
    cases hr : ((runStages (runNumbered registry context (stages line).length) (.str [])
        (stages line).zipIdx).run state).result with
    | error failure => rw [bind_error hr]; exact ⟨rfl, rfl⟩
    | ok output => rw [bind_ok hr]; exact ⟨rfl, rfl⟩
  · next hp =>
    rw [stages_of_single (by simpa using hp), hl, List.zipIdx_singleton, List.length_singleton,
      runStages]
    have hresult := runNumbered_result registry context 1 0 line state
    have hstate := runNumbered_state registry context 1 0 line state
    cases hr : ((runStage registry context line).run state).result with
    | error failure => rw [bind_error (hresult.trans hr)]; exact ⟨rfl, hstate⟩
    | ok reply => rw [bind_ok (hresult.trans hr)]; exact ⟨rfl, hstate⟩

/-- **A line that is not blank comes to its stages in turn**, also if it is one stage only. -/
theorem execute_stages (hq : Uninterrupted interpreter.registry interpreter.context)
    (hne : strip line ≠ []) :
    ∃ last result, (executeInTurn start (stages (strip line)) interpreter).1 = .ok last ∧
      (interpreter.execute (some line)).1 = .ok result ∧ Retold last result ∧
      (interpreter.execute (some line)).2.state =
        (executeInTurn start (stages (strip line)) interpreter).2.state := by
  have hline : trimmed (some line) = strip line := rfl
  obtain ⟨millis, hres⟩ := execute_result interpreter (some line) (by rwa [hline])
  have hst := execute_state interpreter (some line) (by rwa [hline])
  obtain ⟨last, hlast, hstate, hends⟩ := executeInTurn_spec (stages (strip line)).length
    (stages (strip line)) 0 (.text []) 0 interpreter (fun stage hs => stage_plain hs) hq
  obtain ⟨hresult, hsame⟩ := runLine_stages interpreter.registry interpreter.context
    (strip_strip line) interpreter.state
  have hleft := hst.trans (hstate.trans hsame).symm
  simp only [Reply.text, hresult] at hends
  rw [hline] at hres
  cases hr : ((runLine interpreter.registry interpreter.context (strip line)).run
      interpreter.state).result with
  | error failure =>
    rw [hr] at hends hres
    obtain ⟨hf, took, rfl⟩ := hends
    rw [conclude_error hf] at hres
    exact ⟨_, _, hlast, hres, ⟨rfl, rfl, rfl⟩, hleft⟩
  | ok reply =>
    rw [hr] at hends hres
    obtain ⟨told, took, hout, rfl⟩ := hends
    exact ⟨_, _, hlast, hres, ⟨rfl, hout.symm, rfl⟩, hleft⟩

/-! ### A stage that names no command -/

/-- The stage ends what is run, and reports that a word is not known. -/
structure Unknown (word : Text) (executed : Except Fault Result × Interpreter)
    (reached : Interpreter) : Prop where
  result : ∃ result, executed.1 = .ok result ∧ result.success = false ∧
    result.error = some (Failure.notRecognized word).message
  state_eq : executed.2.state = reached.state

theorem unknown_nil (last : Result) (rest : List Text) (reached : Interpreter) :
    Unknown [] (executeInTurn last ([] :: rest) reached) reached :=
  ⟨⟨_, rfl, rfl, rfl⟩, rfl⟩

/-- A stage that begins with a bar, which is no command's name. -/
theorem unknown_bar (hs : Plain stage) (ht : (tokenize stage).head? = some bar)
    (hbar : reached.command? bar = .ok none) (last : Result) (rest : List Text) :
    Unknown bar (executeInTurn last (stage :: rest) reached) reached := by
  obtain ⟨args, htokens⟩ := List.head?_eq_some_iff.mp ht
  have hne : stage ≠ [] := by
    rintro rfl
    cases htokens
  have hrun : (runStage reached.registry reached.context stage).run reached.state =
      ⟨.error (.notRecognized bar), reached.state, []⟩ := by
    rw [runStage_of_tokenize htokens]
    exact dispatch_none hbar
  obtain ⟨⟨millis, hres⟩, hst⟩ := execute_plain reached hs hne
  rw [hrun] at hres hst
  rw [executeInTurn_failed hne hres rfl]
  exact ⟨⟨_, rfl, rfl, rfl⟩, hst⟩

/-! ### The line -/

/-- The word that an empty stage between `before` and `after` fails with: none, or the bar that an
end of the line has left. -/
def leftover (before after : List Text) : Text := if before = [] ∨ after = [[]] then bar else []

/-- **The stages before the empty one are run, and no other.** The line fails with the error of the
last of them, or else since a word is not known. -/
structure StopsAfter (before : List Text) (word : Text) (interpreter : Interpreter)
    (line : Text) : Prop where
  result : ∃ last result, (executeInTurn start before interpreter).1 = .ok last ∧
    (interpreter.execute (some line)).1 = .ok result ∧ result.success = false ∧
    result.output = .str [] ∧ result.error =
      if last.success then some (Failure.notRecognized word).message else last.error
  state_eq : (interpreter.execute (some line)).2.state =
    (executeInTurn start before interpreter).2.state

/-- A line stops at a stage that is not known. -/
theorem stopsAfter {word : Text} (hq : Uninterrupted interpreter.registry interpreter.context)
    (hne : strip line ≠ []) (hs : stages (strip line) = before ++ stage :: rest)
    (hu : ∀ last, Unknown word (executeInTurn last (stage :: rest)
      (executeInTurn start before interpreter).2) (executeInTurn start before interpreter).2) :
    StopsAfter before word interpreter line := by
  obtain ⟨final, result, hfinal, hres, hretold, hstate⟩ := execute_stages hq hne
  have hplain : ∀ text ∈ before, Plain text := fun text ht =>
    stage_plain (hs ▸ List.mem_append_left _ ht)
  obtain ⟨last, hlast, -⟩ :=
    executeInTurn_spec before.length before 0 (.text []) 0 interpreter hplain hq
  have hlast : (executeInTurn start before interpreter).1 = .ok last := hlast
  have hstart : start.success = true := rfl
  have happend := executeInTurn_append hstart before (stage :: rest) interpreter
  rw [← hs] at happend
  generalize hb : executeInTurn start before interpreter = executed at hu hlast happend
  obtain ⟨reported, reached⟩ := executed
  obtain rfl : reported = .ok last := hlast
  dsimp only at happend hu
  by_cases hsuccess : last.success = true
  · obtain ⟨⟨failed, hfailed, hsf, herror⟩, hsame⟩ := hu last
    rw [happend, if_pos hsuccess] at hfinal hstate
    obtain rfl : failed = final := Except.ok.inj (hfailed.symm.trans hfinal)
    refine ⟨⟨last, result, by rw [hb], hres, hretold.success_eq.trans hsf, ?_, ?_⟩, ?_⟩
    · rw [hretold.output_eq, hsf]
      rfl
    · rw [hretold.error_eq, herror, if_pos hsuccess]
    · rw [hstate, hsame, hb]
  · rw [happend, if_neg hsuccess] at hfinal hstate
    obtain rfl : last = final := Except.ok.inj hfinal
    have hsf : last.success = false := Bool.eq_false_iff.mpr hsuccess
    refine ⟨⟨last, result, by rw [hb], hres, hretold.success_eq.trans hsf, ?_, ?_⟩, ?_⟩
    · rw [hretold.output_eq, if_neg hsuccess]
    · rw [hretold.error_eq, if_neg hsuccess]
    · rw [hstate, hb]

/-- **An empty stage stops the line, unless only the last one is empty.** The stages before it are
run and no other, and if they succeed the line fails since a word is not known. A last stage that is
empty is not seen: the stage before it gets a bar as a further argument, and its success is that of
the line. -/
theorem execute_emptyStage (interpreter : Interpreter) (line : Text) (before after : List Text)
    (hq : Uninterrupted interpreter.registry interpreter.context)
    (hs : stages line = before ++ [] :: after) (hb : [] ∉ before) :
    (after ≠ [] → (leftover before after = bar →
        (executeInTurn start before interpreter).2.command? bar = .ok none) →
      StopsAfter before (leftover before after) interpreter line) ∧
    ∀ earlier stage, before = earlier ++ [stage] → after = [] →
      ∃ gap, gap ≠ [] ∧ strip gap = [] ∧ ∃ last result,
        (executeInTurn start (earlier ++ [stage ++ gap ++ bar]) interpreter).1 = .ok last ∧
        (interpreter.execute (some line)).1 = .ok result ∧ Retold last result ∧
        (interpreter.execute (some line)).2.state =
          (executeInTurn start (earlier ++ [stage ++ gap ++ bar]) interpreter).2.state := by
  constructor
  · intro ha hbar
    obtain ⟨stage, rest, hstages, hstage⟩ := stages_strip_of_empty hs hb ha
    unfold leftover at hbar ⊢
    have hne : strip line ≠ [] := by
      have := List.length_pos_iff.mpr ha
      refine strip_ne_nil_of_stages ?_
      rw [hs, List.length_append, List.length_cons]
      omega
    split_ifs at hstage hbar ⊢ with hend
    · have hmem : stage ∈ stages (strip line) := by simp [hstages]
      have hplain : Plain stage := stage_plain hmem
      exact stopsAfter hq hne hstages fun last => unknown_bar hplain hstage (hbar rfl) last rest
    · subst hstage
      exact stopsAfter hq hne hstages fun last => unknown_nil last rest _
  · rintro earlier stage rfl rfl
    have hpair : earlier ++ [stage] ++ [[]] = earlier ++ [stage, []] := by simp
    obtain ⟨gap, hgap, hblank, hstages⟩ := stages_strip_of_trailing (hs.trans hpair) hb
    have hne : strip line ≠ [] := strip_ne_nil_of_stages (by simp [hs])
    have hexec := execute_stages hq hne
    rw [hstages] at hexec
    exact ⟨gap, hgap, hblank, hexec⟩

/-- A stage that writes a variable. -/
def writing : Text := "Set-Variable a 1"

/-- A stage that changes the location. -/
def leaving : Text := "Set-Location b"

/-- A line with an empty stage between two others. -/
def gapLine : Text := writing ++ " |  | " ++ leaving

/-- A line with an empty stage at its end. -/
def openLine : Text := writing ++ " | "

/-- The first line stops in between, with the variable written. In the second one the bar is an
argument. -/
theorem execute_emptyStage_between :
    Uninterrupted (simulated (.str "C:")).registry (simulated (.str "C:")).context ∧
    stages gapLine = [writing] ++ [] :: [leaving] ∧ [] ∉ [writing] ∧
    StopsAfter [writing] [] (simulated (.str "C:")) gapLine ∧
    stages openLine = [writing] ++ [] :: [] ∧
    ∃ gap, gap ≠ [] ∧ strip gap = [] ∧ ∃ last result,
      (executeInTurn start [writing ++ gap ++ bar] (simulated (.str "C:"))).1 = .ok last ∧
      ((simulated (.str "C:")).execute (some openLine)).1 = .ok result ∧ Retold last result ∧
      ((simulated (.str "C:")).execute (some openLine)).2.state =
        (executeInTurn start [writing ++ gap ++ bar] (simulated (.str "C:"))).2.state := by
  have hq := simulated_uninterrupted (.str "C:")
  have hs : stages gapLine = [writing] ++ [] :: [leaving] := by decide
  have hs' : stages openLine = [writing] ++ [] :: [] := by decide
  have hb : [] ∉ [writing] := by decide
  have hleft : leftover [writing] [leaving] = [] := by decide
  obtain ⟨hstop, -⟩ := execute_emptyStage (simulated (.str "C:")) gapLine _ _ hq hs hb
  obtain ⟨-, hbar⟩ := execute_emptyStage (simulated (.str "C:")) openLine _ _ hq hs' hb
  rw [hleft] at hstop
  exact ⟨hq, hs, hb, hstop (List.cons_ne_nil _ _) nofun, hs', hbar [] writing rfl rfl⟩

theorem openLine_succeeds :
    ((simulated (.str "C:")).execute (some openLine)).1.toOption.map (·.success) = some true := by
  decide +kernel

/-- So a line with an empty stage may succeed. -/
theorem emptyStage_passed : ¬ ∀ (interpreter : Interpreter) (line : Text) (result : Result),
    Uninterrupted interpreter.registry interpreter.context → strip line ≠ [] →
    isPipeline line = true → [] ∈ stages line →
    (interpreter.execute (some line)).1 = .ok result → result.success = false := by
  intro h
  obtain ⟨result, hres⟩ := execute_reports (simulated_uninterrupted (.str "C:")) (some openLine)
  have hfails := h (simulated (.str "C:")) openLine result (simulated_uninterrupted (.str "C:"))
    (by decide) (by decide) (by decide) hres
  have hsuccess := openLine_succeeds
  rw [hres] at hsuccess
  have hpasses : result.success = true := Option.some.inj hsuccess
  rw [hfails] at hpasses
  cases hpasses

end CmdletShell.Proofs.Runs.EmptyStages
