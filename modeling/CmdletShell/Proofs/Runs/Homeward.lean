import CmdletShell.Proofs.Runs.Locations
import CmdletShell.Proofs.Runs.Variables
import CmdletShell.Shell.Basic

/-!
# Three ways home

`Set-Location` leads home if its target is a sign for the home. Without a target it follows the
variable `HOME`, whose text it reads like any other target. So the two signs lead home, and as long
as `HOME` is not written, `Set-Location` alone leads there from every state if and only if the home
is a path that leads to itself (`homeward`).
-/

namespace CmdletShell.Proofs.Runs.Homeward

open CmdletShell.Interpreter CmdletShell.Line CmdletShell.Location CmdletShell.Cmdlet
open CmdletShell.Proofs.Builtins.Changes CmdletShell.Proofs.Paths.Steps
open CmdletShell.Proofs.Paths.Drives
open CmdletShell.Proofs.Runs.Execution CmdletShell.Proofs.Runs.Frame CmdletShell.Proofs.Runs.Writers
open CmdletShell.Proofs.Runs.Locations CmdletShell.Proofs.Runs.Pwd CmdletShell.Proofs.Runs.Variables

/-- The word that asks for a change of location. -/
def moveWord : Text := "Set-Location"

/-- `Set-Location` means the built-in command. -/
def MeansMove (state : State) : Prop := calledKey state moveWord = some ("set-location" : Text)

/-- The line succeeds with no output, and leads to a location. -/
structure Leads (interpreter : Interpreter) (line location : Text) : Prop where
  result : ∃ result, (interpreter.execute (some line)).1 = .ok result ∧ result.success = true ∧
    result.output = .str [] ∧ result.error = none
  location_eq : (interpreter.execute (some line)).2.state.location = .str location

/-- No stage of the lines writes `HOME`. -/
def Spared (interpreter : Interpreter) (lines : List (Option Text)) : Prop :=
  ∀ value, .wrote "HOME" value ∉ history interpreter (lines.map .execute)

/-- The home of a new session: the one given, else that of the environment or of the settings, else
the default. -/
def startHome (surroundings : Surroundings) (given : Value) : Value :=
  (given.orElse (surroundings.settings.home surroundings.environment)).orElse
    (.str State.defaultHome)

variable {surroundings : Surroundings} {given extraAliases : Value} {interpreter : Interpreter}
  {state : State} {home current line : Text} {args : List Text}

theorem tokenize_moveWord : tokenize moveWord = [moveWord] := by decide

/-- A line that is one stage and calls `Set-Location` leads where its target does. -/
theorem execute_leads (hr : interpreter.registry = .default) (hm : MeansMove interpreter.state)
    (htrim : trimmed (some line) = line) (hp : isPipeline line = false)
    (ht : tokenize line = moveWord :: args) {target : Text}
    (htarget : locationTarget interpreter.state args = .str target)
    (hc : interpreter.state.location = .str current) (hh : interpreter.state.home = .str home) :
    Leads interpreter line (resolve current target home) := by
  have hne : line ≠ [] := by
    rintro rfl
    cases ht
  obtain ⟨⟨millis, hres⟩, hst⟩ := execute_single interpreter (some line)
    (by rwa [htrim]) (by rwa [htrim])
  rw [htrim, hr, runStage_setLocation (calledKey_of_word tokenize_moveWord hm ht), ht,
    List.tail_cons, htarget, hc, hh, follow_str] at hres hst
  refine ⟨⟨_, hres, rfl, rfl, rfl⟩, ?_⟩
  rw [hst]
  rfl

/-! ### A session at its home -/

/-- A new session begins at its home, which is also in `HOME`. -/
structure AtHome (home : Text) (state : State) : Prop where
  home_eq : state.home = .str home
  location_eq : state.location = .str home
  variable_eq : state.valueOf? "HOME" = some (.str home)

theorem atHome_of_interpreterWith
    (h : surroundings.interpreterWith given extraAliases = .ok interpreter)
    (hh : startHome surroundings given = .str home) :
    AtHome home interpreter.state ∧ interpreter.registry = surroundings.registry := by
  obtain ⟨state, hc, h⟩ := ok_of_bind h
  cases h
  obtain ⟨hlocation, hsame⟩ := State.location_of_create hc
  have hat : state.location = .str home := hlocation.trans hh
  exact ⟨⟨hsame.trans hat, hat, (State.homeVariable_of_create hc).trans
    (congrArg some (hsame.trans hat))⟩, rfl⟩

/-- What stays after lines that do not write `HOME`. -/
theorem reached (hr : interpreter.registry = .default) (h : AtHome home interpreter.state)
    (hm : MeansMove interpreter.state) (lines : List (Option Text)) :
    (executeAll interpreter lines).registry = .default ∧
    MeansMove (executeAll interpreter lines).state ∧
    (executeAll interpreter lines).state.home = .str home ∧
    (∃ current, (executeAll interpreter lines).state.location = .str current) ∧
    (Spared interpreter lines →
      (executeAll interpreter lines).state.valueOf? "HOME" = some (.str home)) := by
  have hkeeping : Keeping interpreter.registry := hr ▸ default_keeping
  have hgrown := executeAll_grown hkeeping lines
  have hpath : IsPath (fun _ => True) (.str home) := ⟨home, rfl, trivial⟩
  have hwithin : Within (fun _ => True) (executeAll interpreter lines).state :=
    executeAll_within (fun _ _ _ => trivial) hr
      ⟨h.home_eq ▸ hpath, h.location_eq ▸ hpath⟩ lines
  obtain ⟨current, hcurrent, -⟩ := hwithin.location
  refine ⟨(executeAll_registry lines interpreter).trans hr, ?_, hgrown.home.trans h.home_eq,
    ⟨current, hcurrent⟩, fun hs => ?_⟩
  · rw [MeansMove, calledKey_congr hgrown.aliases]
    exact hm
  · rw [← after_execute, valueOf?_after hr (by decide), foldl_remember hs, h.variable_eq]

/-! ### Away from home -/

/-- A line that leads away from every home, except one on a drive. -/
def rootLine : Text := "Set-Location C:\\"

/-- Where it leads. -/
def rootPath : Text := "C:\\"

theorem rootPath_on : On 'C' rootPath := ⟨by decide, ['\\'], rfl⟩

theorem spared_rootLine (hm : MeansMove interpreter.state) :
    Spared interpreter [some rootLine] := by
  intro value h
  have hstages : stages (trimmed (some rootLine)) = [rootLine] := by decide
  have htokens : tokenize rootLine = [moveWord, rootPath] := by decide
  have hdeed : deedOf? interpreter.state rootLine = some .moved :=
    if_pos (calledKey_of_word tokenize_moveWord hm htokens)
  rw [List.map_singleton, history, history, List.append_nil, Event.deeds, hstages, Pwd.deeds,
    hdeed] at h
  split at h
  · cases List.mem_singleton.mp h
  · cases h

/-! ### The three ways -/

/-- **The signs for the home lead home, and no target does if the home leads to itself.** Lines that
do not write `HOME` change nothing about that. -/
theorem homeward (surroundings : Surroundings) (given extraAliases : Value)
    (interpreter : Interpreter) (home : Text)
    (hcreate : surroundings.interpreterWith given extraAliases = .ok interpreter)
    (hr : surroundings.registry = .default) (hh : startHome surroundings given = .str home)
    (hm : MeansMove interpreter.state) :
    (∀ lines, Leads (executeAll interpreter lines) "Set-Location ~" home ∧
      Leads (executeAll interpreter lines) "Set-Location $HOME" home ∧
      (Spared interpreter lines → ∃ current,
        (executeAll interpreter lines).state.location = .str current ∧
        Leads (executeAll interpreter lines) moveWord (resolve current home home))) ∧
    ((∀ lines, Spared interpreter lines → Leads (executeAll interpreter lines) moveWord home) ↔
      Returning home) := by
  obtain ⟨hat, hsame⟩ := atHome_of_interpreterWith hcreate hh
  have hdefault : interpreter.registry = .default := hsame.trans hr
  have hbare : ∀ lines, Spared interpreter lines → ∀ current,
      (executeAll interpreter lines).state.location = .str current →
      Leads (executeAll interpreter lines) moveWord (resolve current home home) := by
    intro lines hs current hcurrent
    obtain ⟨hreg, hmeans, hhome, -, hvariable⟩ := reached hdefault hat hm lines
    refine execute_leads hreg hmeans (by decide) (by decide) tokenize_moveWord ?_ hcurrent hhome
    rw [locationTarget, homeVariable, hvariable hs]
    rfl
  refine ⟨fun lines => ?_, fun h => ?_, fun h lines hs => ?_⟩
  · obtain ⟨hreg, hmeans, hhome, ⟨current, hcurrent⟩, -⟩ := reached hdefault hat hm lines
    have hsign : ∀ {line sign : Text}, trimmed (some line) = line → isPipeline line = false →
        tokenize line = [moveWord, sign] → asPath sign = "~" ∨ asPath sign = "$HOME" →
        Leads (executeAll interpreter lines) line home := by
      intro line sign htrim hp ht hsign
      have hleads := execute_leads hreg hmeans htrim hp ht rfl hcurrent hhome
      rwa [resolve_home hsign] at hleads
    exact ⟨hsign (by decide) (by decide) (by decide : _ = [moveWord, "~"]) (by decide),
      hsign (by decide) (by decide) (by decide : _ = [moveWord, "$HOME"]) (by decide),
      fun hs => ⟨current, hcurrent, hbare lines hs current hcurrent⟩⟩
  · obtain ⟨-, -, -, ⟨current, hcurrent⟩, -⟩ := reached hdefault hat hm []
    have hroot : (executeAll interpreter [some rootLine]).state.location = .str rootPath := by
      have htokens : tokenize rootLine = [moveWord, rootPath] := by decide
      have hleads := execute_leads hdefault hm (by decide) (by decide) htokens rfl hcurrent
        hat.home_eq
      rw [resolve_absolute (by decide)] at hleads
      exact hleads.location_eq
    have hspared := spared_rootLine hm
    have hleads := hbare _ hspared rootPath hroot
    refine returning_of_resolve rootPath_on ?_
    exact Value.str.inj (hleads.location_eq.symm.trans (h _ hspared).location_eq)
  · obtain ⟨-, -, -, ⟨current, hcurrent⟩, -⟩ := reached hdefault hat hm lines
    have hleads := hbare lines hs current hcurrent
    rwa [resolve_of_returning h] at hleads

/-- A home on the network. -/
def shareHome : Text := "\\\\srv\\me"

/-- The environment gives the home. -/
def visiting : Surroundings where
  environment := [("PSIM_HOME_LOCATION", shareHome)]
  site := default
  context := (fresh shareHome).context

theorem meansMove_share : MeansMove (fresh shareHome).state := by
  unfold MeansMove
  decide

theorem homeward_visiting :
    visiting.interpreterWith .null .null = .ok (fresh shareHome) ∧
    visiting.registry = .default ∧ startHome visiting .null = .str shareHome ∧
    MeansMove (fresh shareHome).state ∧
    (∀ lines, Leads (executeAll (fresh shareHome) lines) "Set-Location ~" shareHome ∧
      Leads (executeAll (fresh shareHome) lines) "Set-Location $HOME" shareHome) ∧
    ∃ lines, Spared (fresh shareHome) lines ∧
      ¬ Leads (executeAll (fresh shareHome) lines) moveWord shareHome := by
  have hcreate : visiting.interpreterWith .null .null = .ok (fresh shareHome) := by rfl
  have hh : startHome visiting .null = .str shareHome := by rfl
  have hm := meansMove_share
  have hn : ¬ Returning shareHome := by
    unfold Returning
    decide
  obtain ⟨hsigns, hbare⟩ :=
    homeward visiting .null .null (fresh shareHome) shareHome hcreate rfl hh hm
  refine ⟨hcreate, rfl, hh, hm, fun lines => ⟨(hsigns lines).1, (hsigns lines).2.1⟩, ?_⟩
  by_contra hall
  push Not at hall
  exact hn (hbare.mp hall)

/-- So the three ways do not agree. -/
theorem ways_differ : ¬ ∀ (surroundings : Surroundings) (given extraAliases : Value)
    (interpreter : Interpreter) (home : Text),
    surroundings.interpreterWith given extraAliases = .ok interpreter →
    surroundings.registry = .default → startHome surroundings given = .str home →
    MeansMove interpreter.state → ∀ lines, Spared interpreter lines →
      Leads (executeAll interpreter lines) moveWord home ∧
      Leads (executeAll interpreter lines) "Set-Location ~" home ∧
      Leads (executeAll interpreter lines) "Set-Location $HOME" home := by
  intro h
  have hcreate : visiting.interpreterWith .null .null = .ok (fresh shareHome) := by rfl
  have hwant := (h visiting .null .null (fresh shareHome) shareHome hcreate rfl (by rfl)
    meansMove_share [] fun value => List.not_mem_nil).1
  have hleads : Leads (fresh shareHome) moveWord (resolve shareHome shareHome shareHome) :=
    execute_leads (fresh_registry shareHome) meansMove_share (by decide) (by decide)
      tokenize_moveWord rfl rfl rfl
  have heq := Value.str.inj (hleads.location_eq.symm.trans hwant.location_eq)
  revert heq
  decide

end CmdletShell.Proofs.Runs.Homeward
