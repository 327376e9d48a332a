import CmdletShell.Proofs.Builtins.Reasons
import CmdletShell.Proofs.Runs.Safety
import CmdletShell.Proofs.Runs.Writers

/-!
# Every failure is foreseen

A session that is created with texts for its home and its aliases stays textual, whatever its lines
assign (`executeAll_textual`). So with simulated items none of its commands breaks down: a stage
fails for a reason that is reported on purpose (`Foreseen`), and notes nothing but details. What a
line notes is `Mild` (`execute_mild`).

`executeAll_explained` says of every line of such a session that its failure is the one of a stage,
and that no entry of the journal is an error.
-/

namespace CmdletShell.Proofs.Runs.Failures

open CmdletShell.Interpreter CmdletShell.Line CmdletShell.Text CmdletShell.Location
open CmdletShell.Cmdlet CmdletShell.Argument
open CmdletShell.Proofs.Lines.Strip
open CmdletShell.Proofs.Builtins.Fields CmdletShell.Proofs.Builtins.Handlers
open CmdletShell.Proofs.Builtins.Changes CmdletShell.Proofs.Builtins.Reasons
open CmdletShell.Proofs.Runs.Actions CmdletShell.Proofs.Runs.Execution
open CmdletShell.Proofs.Runs.Frame CmdletShell.Proofs.Runs.Safety CmdletShell.Proofs.Runs.Writers

/-- **The reasons for which a stage fails.** -/
inductive Foreseen (state : State) (stage : Text) : Failure → Prop
  /-- The stage has no token. -/
  | blank : tokenize stage = [] → Foreseen state stage (.notRecognized stage)
  /-- No command has the name of its first token. -/
  | unknown {word args} : tokenize stage = word :: args →
      Registry.default.lookup (state.resolveAlias word) = .ok none →
      Foreseen state stage (.notRecognized word)
  /-- The command that it calls reports the failure. -/
  | own {key failure} : calledKey state stage = some key → Own key failure →
      Foreseen state stage failure

variable {context : Context} {state start : State} {stage line : Text} {failure : Failure}
  {interpreter : Interpreter}

theorem Foreseen.isDeliberate (h : Foreseen state stage failure) :
    failure.isDeliberate = true := by
  cases h with
  | blank => rfl
  | unknown => rfl
  | own _ h => exact h.isDeliberate

/-- What is foreseen depends on the aliases only. -/
theorem Foreseen.congr (ha : state.aliases = start.aliases) (h : Foreseen state stage failure) :
    Foreseen start stage failure := by
  cases h with
  | blank ht => exact .blank ht
  | unknown ht hl =>
    refine .unknown ht ?_
    unfold State.resolveAlias at hl ⊢
    rwa [← ha]
  | own hk h => exact .own (calledKey_congr ha.symm stage ▸ hk) h

/-! ### Textual states -/

theorem textual_assign (h : Textual state) (name value : Text) :
    Textual (state.assign name (.str value)) where
  home := h.home
  location := h.location
  homeVariable found hv := by
    rw [State.valueOf?, State.assign, Fields.get?_put] at hv
    split at hv
    · exact ⟨value, (Option.some.inj hv).symm⟩
    · exact h.homeVariable found hv
  aliases := h.aliases

theorem textual_moveTo (h : Textual state) (location : Text) :
    Textual (state.moveTo (.str location)) where
  home := h.home
  location := ⟨location, rfl⟩
  homeVariable := (textual_assign h "PWD" location).homeVariable
  aliases := h.aliases

/-- **A stage leaves a textual state textual.** -/
theorem runStage_textual (h : Textual state) (stage : Text) :
    Textual ((runStage .default context stage).run state).state := by
  have hgrown : Grown state ((runStage .default context stage).run state).state :=
    runStage_grown default_keeping stage
  by_cases hl : calledKey state stage = some ("set-location" : Text)
  · obtain ⟨home, hhome⟩ := h.home
    obtain ⟨current, hcurrent⟩ := h.location
    obtain ⟨target, htarget⟩ := locationTarget_textual h (tokenize stage).tail
    rw [runStage_setLocation hl, htarget, hhome, hcurrent, follow_str]
    exact textual_moveTo h _
  by_cases hv : calledKey state stage = some ("set-variable" : Text)
  · rw [runStage_setVariable hv]
    cases assignment (tokenize stage).tail with
    | error failure => exact h
    | ok result => exact textual_assign h _ _
  · refine ⟨hgrown.home ▸ h.home, runStage_location_eq hl ▸ h.location, ?_,
      hgrown.aliases ▸ h.aliases⟩
    unfold State.valueOf?
    rw [runStage_bindings_eq hl hv]
    exact h.homeVariable

theorem textFields_isText {fields : Fields Text} {field : Text × Value}
    (h : field ∈ State.textFields fields) : ∃ text, field.2 = .str text := by
  obtain ⟨⟨name, text⟩, -, rfl⟩ := List.mem_map.mp h
  exact ⟨text, rfl⟩

/-- **A session that is created with texts is textual.** -/
theorem textual_of_create {home : Text} {aliases : Fields Text}
    (h : State.create (.str home) (.obj (State.textFields aliases)) = .ok state) :
    Textual state := by
  have hhome : ∃ text, (Value.str home).orElse (.str State.defaultHome) = .str text := by
    unfold Value.orElse
    split <;> exact ⟨_, rfl⟩
  obtain ⟨hlocation, hsame⟩ := State.location_of_create h
  rw [← hlocation] at hhome
  refine ⟨hsame ▸ hhome, hhome, fun value hv => ?_, fun name value hv => ?_⟩
  · rw [State.valueOf?, State.homeVariable_of_create h, hsame] at hv
    cases hv
    exact hhome
  · rw [← Except.ok.inj (State.aliases_of_create h)] at hv
    rcases mem_update _ (mem_of_get? hv) with hmem | hmem
    · exact textFields_isText hmem
    · obtain ⟨field, hf, heq⟩ := List.mem_map.mp hmem
      obtain ⟨text, ht⟩ := textFields_isText hf
      exact ⟨text, by rw [← ht]; exact (congrArg Prod.snd heq).symm⟩

/-- **A textual session stays textual.** -/
theorem executeAll_textual (hr : interpreter.registry = .default)
    (h : Textual interpreter.state) (lines : List (Option Text)) :
    Textual (executeAll interpreter lines).state := by
  refine executeAll_keeps lines (fun stage s hs => ?_) h
  rw [hr]
  exact runStage_textual hs stage

/-! ### Stages -/

/-- **A stage fails for a reason that is foreseen**, and notes nothing but details. -/
theorem runStage_foreseen (hi : context.items = .simulated) (ht : Textual state) (stage : Text) :
    (∀ failure, ((runStage .default context stage).run state).result = .error failure →
      Foreseen state stage failure) ∧
    ∀ entry ∈ ((runStage .default context stage).run state).entries, entry.level = .debug := by
  have hrun := runStage_run .default context stage state
  generalize (runStage .default context stage).run state = outcome at hrun
  cases hrun with
  | blank htokens =>
    refine ⟨fun failure h => ?_, by rintro entry ⟨⟩⟩
    cases h
    exact .blank htokens
  | @untyped typed args fault htokens hl =>
    obtain ⟨text, htext⟩ := resolveAlias_textual ht typed
    rw [htext] at hl
    cases hl
  | unknown htokens hl =>
    refine ⟨fun failure h => ?_, by rintro entry ⟨⟩⟩
    cases h
    exact .unknown htokens hl
  | @ran typed args command htokens hl =>
    obtain ⟨name, hname, hkey, hkeeps⟩ := default_keeping hl
    have hreasoned := default_reasoned hl
    have hitems := (surroundings_items .default context).trans hi
    refine ⟨fun failure h => ?_, ?_⟩
    · have hcalled : calledKey state stage = some command.description.key := by
        rw [hkey]
        exact calledKey_of_tokenize htokens hname
      rcases hkeeps (surroundings .default context) args state with
        ⟨reply, hok, -⟩ | ⟨failure', herr, -, -⟩
      · rw [settle, hok] at h
        cases h
      · rw [settle, herr] at h
        cases h
        exact .own hcalled (own_of_textual hkeeps hreasoned hitems ht herr)
    · rw [settle_entries]
      exact (hreasoned (surroundings .default context) args state).2

/-! ### Lines -/

/-- In a textual state a line fails for a reason that is foreseen of one of its stages. -/
theorem runLine_foreseen (hi : context.items = .simulated) (ht : Textual state)
    (hl : strip line = line) :
    (∀ failure, ((runLine .default context line).run state).result = .error failure →
      ∃ stage ∈ stages line, Foreseen state stage failure) ∧
    ∀ entry ∈ ((runLine .default context line).run state).entries, entry.level = .debug := by
  have hsafe : Safe (fun s => Textual s ∧ s.aliases = state.aliases)
      (fun failure => ∃ stage ∈ stages line, Foreseen state stage failure) (·.level = .debug)
      ((runLine .default context line).run state) := by
    refine safe_runLine (fun _ h => h) hl (fun stage hstage s hs => ?_) ⟨ht, rfl⟩
    obtain ⟨hfails, hnotes⟩ := runStage_foreseen hi hs.1 stage
    have hgrown : Grown s ((runStage .default context stage).run s).state :=
      runStage_grown default_keeping stage
    exact ⟨⟨runStage_textual hs.1 stage, hgrown.aliases.trans hs.2⟩,
      fun failure h => ⟨stage, hstage, (hfails failure h).congr hs.2⟩, hnotes⟩
  exact ⟨hsafe.reason, hsafe.noted⟩

/-- **What a line comes to is explained.** -/
structure Explained (interpreter : Interpreter) (line : Option Text) : Prop where
  /-- The line is reported on. -/
  reported : ∃ result, (interpreter.execute line).1 = .ok result
  /-- A failure is that of a stage, which reports it on purpose. -/
  reason : ∀ result, (interpreter.execute line).1 = .ok result → result.success = false →
    ∃ stage ∈ stages (trimmed line), ∃ failure,
      ((runLine interpreter.registry interpreter.context (trimmed line)).run
        interpreter.state).result = .error failure ∧
      Foreseen interpreter.state stage failure ∧ failure.isDeliberate = true ∧
      result.error = some failure.message
  /-- No entry that the line leaves is an error. -/
  quiet : ∃ noted, (interpreter.execute line).2.session.journal =
      interpreter.session.journal ++ noted ∧ ∀ entry ∈ noted, entry.level ≠ .error

theorem ne_interrupted_of_deliberate (h : failure.isDeliberate = true) :
    failure ≠ .fault .interrupted := by
  rintro rfl
  cases h

/-- A failure that is reported on purpose is told in its own words. -/
theorem report_of_deliberate (h : failure.isDeliberate = true) :
    report failure = failure.message := by
  rw [report, h]
  rfl

/-- The entry is a detail or tells of a usual event. -/
def Mild (entry : Entry) : Prop := entry.level = .debug ∨ entry.level = .info

theorem Mild.ne_error {entry : Entry} (h : Mild entry) : entry.level ≠ .error := by
  rcases h with h | h <;> simp [h]

/-- Such a failure is told as a usual event. -/
theorem failureEntries_of_deliberate (h : failure.isDeliberate = true) (line : Text) :
    ∀ entry ∈ failureEntries line failure, Mild entry := by
  intro entry he
  rw [failureEntries, if_pos h, List.nil_append] at he
  obtain rfl := List.mem_singleton.mp he
  exact Or.inr rfl

/-- **What a line notes is mild**, whether it succeeds or fails. -/
theorem execute_mild (hr : interpreter.registry = .default)
    (hi : interpreter.context.items = .simulated) (ht : Textual interpreter.state)
    (line : Option Text) :
    ∃ noted, (interpreter.execute line).2.session.journal =
      interpreter.session.journal ++ noted ∧ ∀ entry ∈ noted, Mild entry := by
  by_cases hb : trimmed line = []
  · have hj := execute_journal_of_blank interpreter line hb
    exact ⟨[], by rw [hj, List.append_nil], by simp⟩
  have hl : strip (trimmed line) = trimmed line := strip_strip (line.getD [])
  obtain ⟨hfails, hnotes⟩ := runLine_foreseen hi ht hl
  have hjournal := execute_journal interpreter line hb
  rw [hr, List.append_assoc] at hjournal
  refine ⟨_, hjournal, fun entry he => ?_⟩
  rcases List.mem_append.mp he with he | he
  · exact Or.inl (hnotes entry he)
  cases hres : ((runLine .default interpreter.context (trimmed line)).run
      interpreter.state).result with
  | ok reply =>
    rw [hres] at he
    obtain rfl := List.mem_singleton.mp he
    exact Or.inl rfl
  | error failure =>
    obtain ⟨stage, -, hforeseen⟩ := hfails failure hres
    have hd := hforeseen.isDeliberate
    rw [hres, closing_error (ne_interrupted_of_deliberate hd)] at he
    exact failureEntries_of_deliberate hd _ entry he

theorem execute_explained (hr : interpreter.registry = .default)
    (hi : interpreter.context.items = .simulated) (ht : Textual interpreter.state)
    (line : Option Text) : Explained interpreter line := by
  obtain ⟨noted, hjournal, hmild⟩ := execute_mild hr hi ht line
  have hquiet : ∃ noted, (interpreter.execute line).2.session.journal =
      interpreter.session.journal ++ noted ∧ ∀ entry ∈ noted, entry.level ≠ .error :=
    ⟨noted, hjournal, fun entry he => (hmild entry he).ne_error⟩
  by_cases hb : trimmed line = []
  · obtain ⟨millis, timer, he⟩ := execute_of_blank interpreter line hb
    refine ⟨⟨_, by rw [he]⟩, fun result hres hs => ?_, hquiet⟩
    rw [he] at hres
    cases hres
    cases hs
  have hl : strip (trimmed line) = trimmed line := strip_strip (line.getD [])
  obtain ⟨hfails, -⟩ := runLine_foreseen hi ht hl
  have hreport := execute_timed interpreter line hb
  rw [← hr] at hfails
  cases hres : ((runLine interpreter.registry interpreter.context (trimmed line)).run
      interpreter.state).result with
  | ok reply =>
    rw [hres] at hreport
    refine ⟨⟨_, hreport⟩, fun result h hs => ?_, hquiet⟩
    rw [hreport] at h
    cases h
    cases hs
  | error failure =>
    obtain ⟨stage, hstage, hforeseen⟩ := hfails failure hres
    have hd : failure.isDeliberate = true := hforeseen.isDeliberate
    rw [hres, conclude_error (ne_interrupted_of_deliberate hd)] at hreport
    refine ⟨⟨_, hreport⟩, fun result h hs => ?_, hquiet⟩
    rw [hreport] at h
    cases h
    exact ⟨stage, hstage, failure, hres, hforeseen, hd, congrArg some (report_of_deliberate hd)⟩

/-- **No built-in command breaks down.** In a session that is created with texts for its home and
its aliases, with the default commands and simulated items, every line after any others is explained. -/
theorem executeAll_explained (interpreter : Interpreter) (home : Text) (aliases : Fields Text)
    (hr : interpreter.registry = .default) (hi : interpreter.context.items = .simulated)
    (hcreate : State.create (.str home) (.obj (State.textFields aliases)) = .ok interpreter.state)
    (lines : List (Option Text)) (line : Option Text) :
    Explained (executeAll interpreter lines) line := by
  have hcontext : (executeAll interpreter lines).context = interpreter.context :=
    executeAll_context lines interpreter
  refine execute_explained ((executeAll_registry lines interpreter).trans hr) ?_ ?_ line
  · rw [hcontext]
    exact hi
  · exact executeAll_textual hr (textual_of_create hcreate) lines

/-- A fresh session with aliases of its own. -/
def freshWith (home : Text) (aliases : Fields Text) : Interpreter where
  context := (simulated (.str home)).context
  session := {
    state := (State.create (.str home) (.obj (State.textFields aliases))).toOption.getD default }

theorem create_freshWith (home : Text) (aliases : Fields Text) :
    State.create (.str home) (.obj (State.textFields aliases)) =
      .ok (freshWith home aliases).state := rfl

/-- The session, with a short name for a command that may fail. -/
def rolling : Interpreter := freshWith "C:" [("r", "Get-Random")]

/-- A variable that commands read is given another value. -/
def reassigned : List (Option Text) := [some "Set-Variable PSVersionTable x"]

/-- A line whose last stage has its bounds reversed. -/
def reversedLine : Text := "Get-Host | R -Minimum 5 -Maximum 1"

/-- The bounds are told, and no entry is an error. -/
theorem executeAll_explained_reassigned :
    rolling.registry = .default ∧ rolling.context.items = .simulated ∧
    State.create (.str "C:") (.obj (State.textFields [("r", "Get-Random")])) = .ok rolling.state ∧
    (∃ result, ((executeAll rolling reassigned).execute (some reversedLine)).1 = .ok result ∧
      result.error = some (Failure.boundsReversed 5 1).message) ∧
    Explained (executeAll rolling reassigned) (some reversedLine) := by
  have hcreate := create_freshWith "C:" [("r", "Get-Random")]
  have hexplained := executeAll_explained rolling "C:" [("r", "Get-Random")] rfl rfl hcreate
    reassigned (some reversedLine)
  obtain ⟨result, hres⟩ := hexplained.reported
  have herror : (((executeAll rolling reassigned).execute (some reversedLine)).1.map
      (·.error)).toOption = some (some (Failure.boundsReversed 5 1).message) := by
    decide +kernel
  rw [hres] at herror
  exact ⟨rfl, rfl, hcreate, ⟨result, hres, Option.some.inj herror⟩, hexplained⟩

end CmdletShell.Proofs.Runs.Failures
