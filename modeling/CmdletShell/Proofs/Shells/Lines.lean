import CmdletShell.Proofs.Runs.EmptyStages
import CmdletShell.Proofs.Runs.Outputs
import CmdletShell.Proofs.Shells.Commands
import CmdletShell.Proofs.Shells.Sessions

/-!
# Lines in settled surroundings

If the settings are presentable, a line that is handled in a shell whose surroundings are settled
and whose location is a text leaves such a shell (`handleLine_ready`), so any number of lines can be
handled, one after another (`handleLines_ready`).

The other way round a few lines tell whether the settings are presentable: if all of them can be
handled by a new shell, they are (`presentable_of_handled`).
-/

namespace CmdletShell.Proofs.Shells.Lines

open CmdletShell.Shell CmdletShell.Interpreter CmdletShell.Text CmdletShell.Line CmdletShell.Cmdlet
open CmdletShell.Proofs.Builtins.Handlers CmdletShell.Proofs.Builtins.Changes
open CmdletShell.Proofs.Runs.Actions CmdletShell.Proofs.Runs.Execution
open CmdletShell.Proofs.Runs.Frame CmdletShell.Proofs.Runs.Pipelines
open CmdletShell.Proofs.Runs.Writers CmdletShell.Proofs.Runs.Locations
open CmdletShell.Proofs.Runs.EmptyStages CmdletShell.Proofs.Runs.Outputs
open CmdletShell.Proofs.Shells.Steps CmdletShell.Proofs.Shells.Panels
open CmdletShell.Proofs.Shells.Needs CmdletShell.Proofs.Shells.Commands
open CmdletShell.Proofs.Shells.Sessions

/-- Handles lines one after another. -/
def handleLines (lines : List Text) : Step Unit :=
  lines.forM fun line => do let _ ← handleLine line

/-- **A shell that is ready for lines**: its surroundings are settled, it has the built-in commands,
and no device interrupts. -/
structure Ready (chosen : Settings) (shell : Shell) : Prop where
  settled : Settled chosen shell.surroundings
  registry : shell.interpreter.registry = .default
  devices : ∀ fault, StoreFails shell.interpreter.context.items fault → fault ≠ .interrupted

variable {chosen : Settings} {shell : Shell} {text : Text}

theorem Ready.uninterrupted (h : Ready chosen shell) :
    Uninterrupted shell.interpreter.registry shell.interpreter.context := by
  rw [h.registry]
  exact default_uninterrupted h.devices

theorem Ready.panelStyles_isObject (h : Ready chosen shell) :
    Setting.isObject (chosen .panelStyles) = true :=
  isObject_of_carried h.settled.accepted.carried rfl

/-! ### What a line is handled as -/

theorem calmAnswer_of_special {special : Special} (hb : (strip text).isEmpty = false)
    (hr : Special.read? (strip text) = some special) :
    calmAnswer (.line text) shell = succeeds (runSpecial special) shell := by
  unfold calmAnswer
  dsimp only
  rw [hb, Bool.false_or, hr]

/-- A line that is run can be shown exactly if its result has what it needs. -/
theorem calmAnswer_iff_showable (h : Ready chosen shell) (hb : (strip text).isEmpty = false)
    (hr : Special.read? (strip text) = none) {result : Result}
    (he : (shell.interpreter.execute (some (strip text))).1 = .ok result) :
    calmAnswer (.line text) shell = true ↔ Showable chosen result := by
  have hc := h.settled.accepted.carried
  unfold calmAnswer
  dsimp only
  rw [hb, Bool.false_or, hr]
  dsimp only
  generalize shell.interpreter.execute (some (strip text)) = executed at he
  obtain ⟨_, interpreter⟩ := executed
  obtain rfl := he
  dsimp only
  rw [← h.settled.settings] at hc ⊢
  rw [succeeds_displayResult]
  · exact isObject_of_carried hc rfl
  · exact isObject_of_carried hc rfl

/-- A line that can be handled shows nothing that cannot be shown. -/
theorem calm_of_handled (h : succeeds (handleLine text) shell = true) :
    calmAnswer (.line text) shell = true := by
  unfold calmAnswer
  dsimp only
  unfold handleLine at h
  dsimp only at h
  cases hb : (strip text).isEmpty with
  | true => rfl
  | false =>
    rw [hb, if_neg Bool.false_ne_true] at h
    rw [Bool.false_or]
    cases hr : Special.read? (strip text) with
    | some special =>
      obtain ⟨_, _, ho, -⟩ := succeeds_bind.mp h
      unfold handleSpecial at ho
      rw [hr] at ho
      obtain ⟨_, _, ho, -⟩ := exists_of_bind ho
      exact succeeds_of_outcome ho
    | none =>
      have hs : outcome (handleSpecial (strip text)) shell = (.ok none, shell) := by
        unfold handleSpecial
        rw [hr]
        rfl
      rw [succeeds_bind_ok hs] at h
      obtain ⟨_, _, ho, -⟩ := succeeds_bind.mp h
      dsimp only
      split
      · next result interpreter hex =>
        rw [outcome_runLine hex] at ho
        exact succeeds_of_outcome ho
      · rfl

theorem keeps_handleLine (text : Text) : Keeps chosen (handleLine text) := by
  have hspecial : Keeps chosen (handleSpecial (strip text)) := by
    unfold handleSpecial
    split
    · exact keeps_bind (keeps_runSpecial _) fun _ => keeps_of_still (still_pure _)
    · exact keeps_of_still (still_pure _)
  have hrun : Still (Shell.runLine (strip text)) :=
    still_bind (still_modify fun _ => rfl) fun _ => still_bind still_get fun _ =>
      still_bind (still_modify fun _ => rfl) fun _ => still_bind (still_attempt _) fun _ =>
        still_displayResult _ _
  unfold handleLine
  dsimp only
  split
  · exact keeps_of_still (still_pure _)
  · refine keeps_bind hspecial fun handled => keeps_of_still ?_
    split
    · exact still_pure _
    · exact still_bind hrun fun _ => still_pure _

/-! ### Lines that can be handled -/

section Handled
variable (hn : Presentable chosen) (hl : ∃ name, chosen .promptLexer = .str name)
include hn

theorem showable_of_isText {result : Result} (ht : IsText result.output) :
    Showable chosen result :=
  ⟨fun _ => hn.panels _ (by decide), fun _ _ _ => ⟨ht, hn.shapes _⟩⟩

include hl

/-- Nothing that a line shows is raised: if it is run, it puts out a text. -/
theorem calmAnswer_of_ready (h : Ready chosen shell) (hp : Placed shell.interpreter.state)
    (text : Text) : calmAnswer (.line text) shell = true := by
  cases hb : (strip text).isEmpty with
  | true =>
    unfold calmAnswer
    dsimp only
    rw [hb, Bool.true_or]
  | false =>
    cases hr : Special.read? (strip text) with
    | some special =>
      rw [calmAnswer_of_special hb hr]
      exact succeeds_runSpecial h.settled hn hl special
    | none =>
      obtain ⟨result, he⟩ := execute_reports h.uninterrupted (some (strip text))
      rw [calmAnswer_iff_showable h hb hr he]
      exact showable_of_isText hn (execute_text h.registry hp he)

/-- **Handling a line succeeds and leaves the shell ready.** -/
theorem handleLine_ready (h : Ready chosen shell) (hp : Placed shell.interpreter.state)
    (text : Text) : ∃ handled after, outcome (handleLine text) shell = (.ok handled, after) ∧
      Ready chosen after ∧ Placed after.interpreter.state := by
  obtain ⟨handled, after, ho, hran, -⟩ :=
    handleLine_spec h.uninterrupted text (calmAnswer_of_ready hn hl h hp text)
  have hkeeps : Keeps chosen (handleLine text) := keeps_handleLine text
  have hsettled := hkeeps shell h.settled
  rw [ho] at hsettled
  refine ⟨handled, after, ho, ⟨hsettled, hran.registry.trans h.registry, ?_⟩, ?_⟩
  · rw [hran.context]
    exact h.devices
  · rw [hran.state]
    exact executeAll_within (fun _ _ _ => trivial) h.registry hp _

/-- **Any number of lines can be handled.** The induction is on the lines; what carries it is that
each of them leaves the shell ready. -/
theorem handleLines_ready : ∀ (lines : List Text) {shell : Shell}, Ready chosen shell →
    Placed shell.interpreter.state → succeeds (handleLines lines) shell = true
  | [], _, _, _ => rfl
  | text :: lines, _, h, hp => by
    obtain ⟨handled, after, ho, hafter, hplaced⟩ := handleLine_ready hn hl h hp text
    have hfirst : outcome (do let _ ← handleLine text) _ = (.ok (), after) := outcome_bind_ok ho
    exact (succeeds_bind_ok hfirst).trans (handleLines_ready lines hafter hplaced)

end Handled

/-! ### Lines that tell -/

/-- Commands that put out the location, and something of each shape. -/
def tellingWords : List Text := ["Get-Location", "Out-String", "Get-ComputerInfo", "Format-Table"]

/-- No alias stands before these commands. -/
def Unhidden (state : State) : Prop :=
  ∀ word ∈ tellingWords, calledKey state word = some (lower word)

/-- A line that fails whatever its words mean, since its second stage is empty. -/
def failingLine : Text := "Get-Location |  | Get-Location"

/-- **A new shell that tells**: it has run no line and is at the home of the settings, the directory
of the program can be made, and no alias hides a command. -/
structure Revealing (chosen : Settings) (shell : Shell) : Prop where
  history : shell.history = []
  location : (chosen .homeLocation).truthy = true →
    shell.interpreter.state.location = chosen .homeLocation
  directory :
    (shell.surroundings.storage.makeDirectory shell.surroundings.site.directory).isOk = true
  unhidden : Unhidden shell.interpreter.state

section Revealing
variable (h : Ready chosen shell) (hall : ∀ text, succeeds (handleLine text) shell = true)
include hall

theorem runSpecial_of_handled (text : Text) (special : Special)
    (hr : Special.read? (strip text) = some special) (hb : (strip text).isEmpty = false) :
    succeeds (runSpecial special) shell = true := by
  rw [← calmAnswer_of_special hb hr]
  exact calm_of_handled (hall text)

include h

theorem showable_of_handled (text : Text) {result : Result} (hr : Special.read? (strip text) = none)
    (hb : (strip text).isEmpty = false)
    (he : (shell.interpreter.execute (some (strip text))).1 = .ok result) :
    Showable chosen result :=
  (calmAnswer_iff_showable h hb hr he).mp (calm_of_handled (hall text))

/-- The reply of a command that reads only has what it needs to be shown. -/
theorem shown_of_word (hu : Unhidden shell.interpreter.state) (word : Text) (command : Command)
    {f : Context → State → List Text → Except Failure Reply} {reply : Reply}
    (hw : word ∈ tellingWords) (hc : command ∈ builtins.flatMap (·.2))
    (hk : command.description.key = lower word) (hf : command.handler = .reading f)
    (hreply : ∀ context, f context shell.interpreter.state [] = .ok reply)
    (ht : reply.output.truthy = true) (hclear : clearsScreen reply.output = false) :
    IsText reply.output ∧ LeadsTo chosen (shapeStyle chosen reply.shape) := by
  have hplain : ∀ word ∈ tellingWords, strip word = word ∧ word.isEmpty = false ∧
      isPipeline word = false ∧ tokenize word = [word] ∧ Special.read? word = none := by decide
  obtain ⟨hstrip, hempty, hpipe, htokens, hread⟩ := hplain word hw
  have htrim : trimmed (some word) = word := hstrip
  have hne : word ≠ [] := by
    rintro rfl
    cases hempty
  have hrun : ((runStage .default shell.interpreter.context word).run
      shell.interpreter.state).result = .ok reply := by
    rw [runStage_builtin hc hk (hu word hw), hf, reading_run, htokens, List.tail_cons, hreply]
    rfl
  obtain ⟨⟨millis, hres⟩, -⟩ := execute_single shell.interpreter (some word) (by rwa [htrim])
    (by rwa [htrim])
  rw [htrim, h.registry, hrun] at hres
  have hshow := showable_of_handled h hall word (by rwa [hstrip]) (by rwa [hstrip])
    (by rwa [hstrip])
  exact hshow.output rfl ht hclear

/-! What the session commands show. -/

theorem helpful_of_handled : Helpful chosen := by
  have hspecial := runSpecial_of_handled hall "/help" .help (by decide) (by decide)
  obtain ⟨_, _, ho, -⟩ := succeeds_bind.mp hspecial
  rw [← h.settled.settings]
  refine (succeeds_showHelp ?_).mp (succeeds_of_outcome ho)
  rw [h.settled.settings]
  exact h.settled.accepted.carried

theorem warning_of_handled (hh : shell.history = []) : LeadsTo chosen (.str "warning") := by
  have hp := h.panelStyles_isObject
  have hspecial := runSpecial_of_handled hall "history" .history (by decide) (by decide)
  have hsettings : outcome Shell.settings shell = (.ok chosen, shell) := by
    rw [← h.settled.settings]
    rfl
  unfold runSpecial at hspecial
  dsimp only at hspecial
  rw [succeeds_bind_ok hsettings, succeeds_bind_ok (outcome_get shell), hh] at hspecial
  obtain ⟨_, _, ho, -⟩ := succeeds_bind.mp hspecial
  have hview := succeeds_of_outcome ho
  unfold Display.history at hview
  rwa [List.isEmpty_nil, if_pos rfl, succeeds_panelView, Display.notice, isOk_fitted hp] at hview

theorem success_of_handled (hd : (shell.surroundings.storage.makeDirectory
    shell.surroundings.site.directory).isOk = true) : LeadsTo chosen (.str "success") := by
  have hp := h.panelStyles_isObject
  have hspecial := runSpecial_of_handled hall "/config_reload" .reload (by decide) (by decide)
  obtain ⟨_, _, ho, -⟩ := succeeds_bind.mp hspecial
  obtain ⟨middle, hreload, -⟩ := outcome_reload h.settled
  rw [hreload, hd] at ho
  obtain ⟨_, _, -, ho⟩ := exists_of_bind ho
  have hview := succeeds_of_outcome ho
  unfold Display.reloaded at hview
  rwa [if_pos rfl, succeeds_panelView, Display.notice, isOk_fitted hp] at hview

/-! What lines for the interpreter show. -/

theorem error_of_handled : LeadsTo chosen (.str "error") := by
  have hstages : stages (strip failingLine) =
      [("Get-Location" : Text)] ++ [] :: [("Get-Location" : Text)] := by decide
  obtain ⟨_, result, -, hres, hfails, -, -⟩ := (stopsAfter h.uninterrupted (by decide) hstages
    fun last => unknown_nil last _ _).result
  have hshow := showable_of_handled h hall failingLine (by decide) (by decide) hres
  exact hshow.failure hfails

/-- A home that is no text is shown as the location, which breaks. -/
theorem home_of_handled (hu : Unhidden shell.interpreter.state)
    (hl : shell.interpreter.state.location = chosen .homeLocation)
    (ht : (chosen .homeLocation).truthy = true) : IsText (chosen .homeLocation) := by
  cases hclear : clearsScreen (chosen .homeLocation) with
  | true =>
    cases hv : chosen .homeLocation with
    | str path => exact ⟨path, rfl⟩
    | _ => rw [hv] at hclear; cases hclear
  | false =>
    rw [← hl] at ht hclear ⊢
    exact (shown_of_word h hall hu "Get-Location" getLocation (by decide)
      (by simp [builtins, locationCommands]) (by decide) rfl (fun _ => rfl) ht hclear).1

theorem shape_of_handled (hu : Unhidden shell.interpreter.state) (shape : Shape) :
    LeadsTo chosen (shapeStyle chosen shape) := by
  cases shape with
  | text =>
    have hc : acknowledging "Out-String" "Converts objects to strings"
        (Reply.text "Out-String conversion completed.") ∈ builtins.flatMap (·.2) := by
      simp [builtins, pipelineCommands]
    exact (shown_of_word h hall hu "Out-String" _ (by decide) hc (by decide) rfl
      (fun _ => rfl) rfl rfl).2
  | object =>
    exact (shown_of_word h hall hu "Get-ComputerInfo" getComputerInfo (by decide)
      (by simp [builtins, systemCommands]) (by decide) rfl (fun _ => rfl) (by decide)
      (by decide)).2
  | table =>
    have hc : acknowledging "Format-Table" "Formats output as a table"
        (Reply.table "Format-Table applied.") ∈ builtins.flatMap (·.2) := by
      simp [builtins, pipelineCommands]
    exact (shown_of_word h hall hu "Format-Table" _ (by decide) hc (by decide) rfl
      (fun _ => rfl) rfl rfl).2

/-- **If all lines can be handled by a new shell that tells, the settings are presentable.** -/
theorem presentable_of_handled (ht : Revealing chosen shell) : Presentable chosen := by
  have hhelp := helpful_of_handled h hall
  refine ⟨fun htruthy => home_of_handled h hall ht.unhidden (ht.location htruthy) htruthy,
    hhelp.keys, ?_, shape_of_handled h hall ht.unhidden⟩
  have hpanels := And.intro hhelp.panel (And.intro (success_of_handled h hall ht.directory)
    (And.intro (warning_of_handled h hall ht.history) (error_of_handled h hall)))
  simpa [panelNames] using hpanels

end Revealing

end CmdletShell.Proofs.Shells.Lines
