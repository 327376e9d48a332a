import CmdletShell.Proofs.Files.Reloading
import CmdletShell.Proofs.Shells.Needs

/-!
# Session commands in settled surroundings

The surroundings of a session are `Settled` while its settings come from an accepted settings file
and no variable of the environment stands above them. Most steps leave the surroundings alone
(`Still`); loading the settings again and cleaning up memory do not, but leave them settled, as does
every session command, whatever it comes to (`keeps_runSpecial`). If the settings are presentable
and a lexer is chosen, every session command succeeds (`succeeds_runSpecial`).
-/

namespace CmdletShell.Proofs.Shells.Commands

open CmdletShell.Shell CmdletShell.Display
open CmdletShell.Proofs.Files.Reloading CmdletShell.Proofs.Files.Written
open CmdletShell.Proofs.Shells.Steps CmdletShell.Proofs.Shells.Panels
open CmdletShell.Proofs.Shells.Needs

/-- All values of a reading of memory are numbers. -/
def Numeric (reading : Fields Value) : Prop :=
  ∀ name value, reading.get? name = some value → value.number?.isSome = true

/-- **Settled surroundings**: the settings come from the settings file of the program, no variable
of the environment stands above them, and the readings of memory are numbers. -/
structure Settled (chosen : Settings) (surroundings : Surroundings) : Prop where
  settings : surroundings.settings = chosen
  accepted : Accepted surroundings.storage surroundings.site.settings chosen
  environment : surroundings.environment = []
  memory : ∀ reading ∈ surroundings.memory, Numeric reading

variable {chosen : Settings}

/-! ### Steps that leave the surroundings alone -/

/-- The surroundings stay as they are. -/
def Stays (before after : Shell) : Prop := after.surroundings = before.surroundings

theorem Stays.refl (shell : Shell) : Stays shell shell := Eq.refl shell.surroundings

theorem Stays.trans {first second third : Shell} (h : Stays first second)
    (h' : Stays second third) : Stays first third :=
  Eq.trans h' h

/-- The step leaves the surroundings as they are. -/
abbrev Still {α : Type} (step : Step α) : Prop := Relates Stays step

section Still
variable {α β : Type} {step : Step α} {next : α → Step β}

theorem still_pure (value : α) : Still (pure value) := relates_pure Stays.refl value

theorem still_get : Still get := relates_get Stays.refl

theorem still_attempt (result : Except Fault α) : Still (attempt result) :=
  relates_attempt Stays.refl result

theorem still_modify {f : Shell → Shell}
    (h : ∀ shell, (f shell).surroundings = shell.surroundings) : Still (modify f) :=
  relates_modify h

theorem still_bind (h : Still step) (h' : ∀ value, Still (next value)) : Still (step >>= next) :=
  relates_bind Stays.trans h h'

theorem still_settings : Still Shell.settings := still_bind still_get fun _ => still_pure _

theorem still_display (view : View) : Still (display view) :=
  relates_forM (R := Stays) Stays.trans Stays.refl fun thing _ =>
    still_bind (still_attempt thing) fun _ => still_modify fun _ => rfl

theorem still_renewLexer : Still renewLexer := by
  refine still_bind (still_bind still_get fun _ => still_bind (still_attempt _) fun name => ?_)
    fun _ => still_modify fun _ => rfl
  dsimp only
  split
  · exact still_pure _
  · split
    · exact still_pure _
    · exact still_bind (still_modify fun _ => rfl) fun _ => still_pure _

theorem still_displayResult (line : Text) (result : Result) :
    Still (displayResult line result) := by
  refine still_bind still_settings fun settings => ?_
  split
  · exact still_modify fun _ => rfl
  · split
    · exact still_bind still_get fun _ => still_display _
    · exact still_display _

end Still

/-! ### Steps that leave the surroundings settled -/

/-- The step leaves settled surroundings settled, whatever it comes to. -/
abbrev Keeps (chosen : Settings) {α : Type} (step : Step α) : Prop :=
  Relates (fun before after => Settled chosen before.surroundings →
    Settled chosen after.surroundings) step

section Keeps
variable {α β : Type} {step : Step α} {next : α → Step β}

theorem keeps_of_still (h : Still step) : Keeps chosen step :=
  fun shell hs => Eq.symm (h shell) ▸ hs

theorem keeps_bind (h : Keeps chosen step) (h' : ∀ value, Keeps chosen (next value)) :
    Keeps chosen (step >>= next) :=
  relates_bind (fun first second hs => second (first hs)) h h'

/-- Loading the settings file again gives the settings that are there, or none if the directory of
the program cannot be made. What is left to do then is to choose the lexer and to tell. -/
theorem outcome_reload {shell : Shell} (hs : Settled chosen shell.surroundings) :
    ∃ middle, outcome reload shell =
      outcome (renewLexer >>= fun _ => display (reloaded chosen shell.surroundings.site.settings
        (shell.surroundings.storage.makeDirectory shell.surroundings.site.directory).isOk))
        middle ∧ Settled chosen middle.surroundings := by
  obtain ⟨hloaded, hfile⟩ := hs.accepted.reload
  unfold reload
  rw [outcome_bind_ok (outcome_get shell)]
  dsimp only
  rw [hs.settings]
  generalize chosen.reload shell.surroundings.site shell.surroundings.storage = result
    at hloaded hfile ⊢
  obtain ⟨loaded, storage⟩ := result
  dsimp only at hloaded hfile ⊢
  subst hloaded
  rw [outcome_bind_ok (outcome_modify _ shell), outcome_bind_ok (outcome_attempt _ _)]
  cases (shell.surroundings.storage.makeDirectory shell.surroundings.site.directory).isOk with
  | false =>
    rw [if_neg Bool.false_ne_true]
    exact ⟨_, rfl, ⟨rfl, hfile, hs.environment, hs.memory⟩⟩
  | true =>
    rw [if_pos rfl]
    dsimp only
    rw [outcome_bind_ok (outcome_modify _ _)]
    exact ⟨_, rfl, ⟨rfl, hfile, hs.environment, hs.memory⟩⟩

theorem keeps_reload : Keeps chosen reload := by
  intro shell hs
  obtain ⟨middle, ho, hmiddle⟩ := outcome_reload hs
  rw [ho]
  have htold : Still (renewLexer >>= fun _ => display (reloaded chosen
      shell.surroundings.site.settings
      (shell.surroundings.storage.makeDirectory shell.surroundings.site.directory).isOk)) :=
    still_bind still_renewLexer fun _ => still_display _
  exact keeps_of_still htold middle hmiddle

/-- The next reading of memory is one of those to come, or has no values. -/
theorem outcome_readMemory {shell : Shell} (hs : Settled chosen shell.surroundings) :
    ∃ reading after, outcome readMemory shell = (.ok reading, after) ∧ Numeric reading ∧
      Settled chosen after.surroundings := by
  unfold readMemory
  rw [outcome_bind_ok (outcome_get shell)]
  cases hm : shell.surroundings.memory with
  | nil =>
    have hnone : Numeric [] := by rintro _ _ ⟨⟩
    exact ⟨[], shell, rfl, hnone, hs⟩
  | cons reading rest =>
    have hall := hs.memory
    rw [hm, List.forall_mem_cons] at hall
    dsimp only
    rw [outcome_bind_ok (outcome_modify _ shell)]
    exact ⟨reading, _, rfl, hall.1, hs.settings, hs.accepted, hs.environment, hall.2⟩

theorem keeps_cleanUp : Keeps chosen cleanUp := by
  have hread : Keeps chosen readMemory := by
    intro shell hs
    obtain ⟨reading, after, ho, -, hafter⟩ := outcome_readMemory hs
    rw [ho]
    exact hafter
  refine keeps_bind hread fun _ => keeps_bind hread fun _ => keeps_of_still ?_
  exact still_bind still_get fun _ => still_bind (still_modify fun _ => rfl) fun _ =>
    still_display _

/-- **A session command leaves settled surroundings settled.** -/
theorem keeps_runSpecial (special : Special) : Keeps chosen (runSpecial special) := by
  cases special with
  | exit => exact keeps_of_still (still_pure _)
  | help =>
    have hhelp : Still showHelp :=
      still_bind still_settings fun _ => still_bind still_get fun _ => still_display _
    exact keeps_of_still (still_bind hhelp fun _ => still_pure _)
  | reload => exact keeps_bind keeps_reload fun _ => keeps_of_still (still_pure _)
  | cleanUp => exact keeps_bind keeps_cleanUp fun _ => keeps_of_still (still_pure _)
  | history =>
    refine keeps_of_still (still_bind still_settings fun _ => still_bind still_get fun _ => ?_)
    exact still_bind (still_display _) fun _ => still_pure _

end Keeps

/-! ### What is shown can be shown -/

section Views
variable {before after : Fields Value} {old new : Value}

theorem isOk_formatted (format : Number.FixedFormat) (value : Value) :
    (formatted format value).isOk = value.number?.isSome := by
  cases value <;> rfl

theorem isSome_difference (ho : old.number?.isSome = true) (hn : new.number?.isSome = true) :
    (difference old new).number?.isSome = true := by
  obtain ⟨a, ha⟩ := Option.isSome_iff_exists.mp ho
  obtain ⟨b, hb⟩ := Option.isSome_iff_exists.mp hn
  unfold difference
  rw [ha, hb]
  dsimp only
  cases b.sub a <;> rfl

/-- What is not in a reading counts as nothing. -/
theorem Numeric.getD (h : Numeric before) (name : Text) :
    ((before.get? name).getD (.int 0)).number?.isSome = true := by
  cases hg : before.get? name with
  | none => rfl
  | some value => exact h name value hg

theorem isOk_cells (hb : Numeric before) (ha : Numeric after) (measure : Measure) :
    (measure.cells before after).isOk = true := by
  have hold := hb.getD measure.key
  have hnew := ha.getD measure.key
  have hchange := isSome_difference hold hnew
  rw [← isOk_formatted ⟨measure.places, false, measure.commas⟩] at hold hnew
  rw [← isOk_formatted ⟨measure.places, true, measure.commas⟩] at hchange
  obtain ⟨old, hold⟩ := isOk_iff.mp hold
  obtain ⟨new, hnew⟩ := isOk_iff.mp hnew
  obtain ⟨change, hchange⟩ := isOk_iff.mp hchange
  unfold Measure.cells
  dsimp only
  rw [hold, hnew, hchange]
  rfl

/-- Two readings of memory can be compared. -/
theorem all_memory (hb : Numeric before) (ha : Numeric after) (collected : Text) :
    (memory before after collected).all (·.isOk) = true := by
  have hrows : (measures.mapM fun measure : Measure =>
      (measure.cells before after).map fun cells => measure.label :: cells).isOk = true := by
    refine isOk_mapM.mpr fun measure _ => ?_
    rw [isOk_map]
    exact isOk_cells hb ha measure
  obtain ⟨rows, hrows⟩ := isOk_iff.mp hrows
  unfold memory memoryTable
  rw [hrows]
  rfl

variable (hp : Setting.isObject (chosen .panelStyles) = true) (hn : Presentable chosen)
include hp hn

theorem all_history (entries : List Text) :
    (Display.history chosen entries).all (·.isOk) = true := by
  unfold Display.history notice
  split <;> rw [all_panelView, isOk_fitted hp] <;> exact hn.panels _ (by decide)

theorem all_reloaded (path : Path) (loaded : Bool) :
    (reloaded chosen path loaded).all (·.isOk) = true := by
  unfold reloaded notice
  split <;> rw [all_panelView, isOk_fitted hp] <;> exact hn.panels _ (by decide)

end Views

/-! ### Session commands that succeed -/

section Succeeds
variable {shell : Shell} (hs : Settled chosen shell.surroundings)
include hs

theorem succeeds_renew (hl : ∃ name, chosen .promptLexer = .str name) :
    succeeds renewLexer shell = true := by
  obtain ⟨name, hname⟩ := hl
  refine succeeds_renewLexer.mpr ⟨name, ?_⟩
  rw [hs.environment, hs.settings]
  exact hname

theorem succeeds_reload (hn : Presentable chosen) (hl : ∃ name, chosen .promptLexer = .str name) :
    succeeds reload shell = true := by
  obtain ⟨middle, ho, hmiddle⟩ := outcome_reload hs
  unfold Steps.succeeds
  rw [ho]
  refine succeeds_bind_of (succeeds_renew hmiddle hl) fun _ after => ?_
  rw [succeeds_display]
  exact all_reloaded (isObject_of_carried hs.accepted.carried rfl) hn _ _

theorem succeeds_cleanUp : succeeds cleanUp shell = true := by
  obtain ⟨before, middle, hbefore, hb, hmiddle⟩ := outcome_readMemory hs
  obtain ⟨after, last, hafter, ha, -⟩ := outcome_readMemory hmiddle
  unfold cleanUp
  rw [succeeds_bind_ok hbefore, succeeds_bind_ok hafter, succeeds_bind_ok (outcome_get last)]
  refine succeeds_bind_of rfl fun _ _ => ?_
  rw [succeeds_display]
  exact all_memory hb ha _

/-- **Every session command succeeds** if the settings are presentable and a lexer is chosen. -/
theorem succeeds_runSpecial (hn : Presentable chosen)
    (hl : ∃ name, chosen .promptLexer = .str name) (special : Special) :
    succeeds (runSpecial special) shell = true := by
  have hcarried := hs.accepted.carried
  cases special with
  | exit => rfl
  | help =>
    refine succeeds_bind_of ?_ fun _ _ => rfl
    rw [succeeds_showHelp (hs.settings ▸ hcarried), hs.settings]
    exact ⟨hn.keys, hn.panels _ (by decide)⟩
  | reload => exact succeeds_bind_of (succeeds_reload hs hn hl) fun _ _ => rfl
  | cleanUp => exact succeeds_bind_of (succeeds_cleanUp hs) fun _ _ => rfl
  | history =>
    have hsettings : outcome Shell.settings shell = (.ok chosen, shell) := by
      rw [← hs.settings]
      rfl
    unfold runSpecial
    dsimp only
    rw [succeeds_bind_ok hsettings, succeeds_bind_ok (outcome_get shell)]
    refine succeeds_bind_of ?_ fun _ _ => rfl
    rw [succeeds_display]
    exact all_history (isObject_of_carried hcarried rfl) hn _

end Succeeds

end CmdletShell.Proofs.Shells.Commands
