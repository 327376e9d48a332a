import CmdletShell.Proofs.Paths.Drives
import CmdletShell.Proofs.Runs.Writers

/-!
# The location along a run

Whatever a change of location keeps from the home and the current location, a run keeps
(`executeAll_within`): to be on a drive, and to have no slash. A line of which no stage leaves the
current location for a place of its own (`leaves`) stays on the drive it is on (`execute_on`).
`executeAll_on_drive` puts this together for a session from its creation on.
-/

namespace CmdletShell.Proofs.Runs.Locations

open CmdletShell.Interpreter CmdletShell.Line CmdletShell.Location CmdletShell.Cmdlet
open CmdletShell.Proofs.Builtins.Changes
open CmdletShell.Proofs.Paths.Steps CmdletShell.Proofs.Paths.Drives
open CmdletShell.Proofs.Runs.Execution CmdletShell.Proofs.Runs.Frame CmdletShell.Proofs.Runs.Writers

/-- The value is a path that `P` holds of. -/
def IsPath (P : Text → Prop) (value : Value) : Prop := ∃ path, value = .str path ∧ P path

/-- The first two characters of a location. -/
def driveOf : Value → Text
  | .str path => path.take 2
  | _ => []

/-- The stage leaves the current location for a place of its own: it calls `Set-Location` without a
target, or with a target that is the home or names a drive. -/
def leaves (state : State) (stage : Text) : Bool :=
  calledKey state stage = some ("set-location" : Text) &&
    match (tokenize stage).tail with
    | [] => true
    | target :: _ => isFixed target

variable {P : Text → Prop} {context : Context} {state start : State} {stage : Text}
  {current target home location : Value} {letter : Char} {interpreter : Interpreter}

/-! ### What changes of location keep -/

theorem follow_ok (h : follow current target home = .ok location) :
    ∃ text, target = .str text := by
  unfold follow at h
  split at h
  · exact ⟨_, rfl⟩
  · cases h

/-- Home and location are paths that `P` holds of. -/
structure Within (P : Text → Prop) (state : State) : Prop where
  home : IsPath P state.home
  location : IsPath P state.location

section Kept
variable (hP : ∀ {current home}, P current → P home → ∀ target, P (resolve current target home))
include hP

theorem follow_isPath (hc : IsPath P current) (hh : IsPath P home)
    (h : follow current target home = .ok location) : IsPath P location := by
  obtain ⟨current, rfl, hc⟩ := hc
  obtain ⟨home, rfl, hh⟩ := hh
  obtain ⟨target, rfl⟩ := follow_ok h
  rw [follow_str] at h
  cases h
  exact ⟨_, rfl, hP hc hh target⟩

theorem runStage_within (h : Within P state) (stage : Text) :
    Within P ((runStage .default context stage).run state).state := by
  have hhome : ((runStage .default context stage).run state).state.home = state.home :=
    (runStage_grown default_keeping stage).home
  refine ⟨hhome ▸ h.home, ?_⟩
  by_cases hk : calledKey state stage = some ("set-location" : Text)
  · rw [runStage_setLocation hk]
    cases hf : follow state.location (locationTarget state (tokenize stage).tail) state.home with
    | error fault => exact h.location
    | ok location => exact follow_isPath hP h.location h.home hf
  · rw [runStage_location_eq hk]
    exact h.location

/-- **What a change of location keeps a run keeps.** -/
theorem executeAll_within (hr : interpreter.registry = .default) (h : Within P interpreter.state)
    (lines : List (Option Text)) : Within P (executeAll interpreter lines).state := by
  refine executeAll_keeps lines (fun stage s hs => ?_) h
  rw [hr]
  exact runStage_within hP hs stage

end Kept

/-! ### Drives -/

/-- Whether a stage leaves depends on the aliases only. -/
theorem leaves_congr {other : State} (h : other.aliases = state.aliases) (stage : Text) :
    leaves other stage = leaves state stage := by
  rw [leaves, leaves, calledKey_congr h]

/-- The location is on the drive; home and aliases are those of another state. -/
structure OnDrive (letter : Char) (start state : State) : Prop where
  home : state.home = start.home
  aliases : state.aliases = start.aliases
  location : IsPath (On letter) state.location

theorem runStage_onDrive (hh : ∃ home, start.home = .str home)
    (hl : leaves start stage = false) (h : OnDrive letter start state) :
    OnDrive letter start ((runStage .default context stage).run state).state := by
  have hgrown : Grown state ((runStage .default context stage).run state).state :=
    runStage_grown default_keeping stage
  refine ⟨hgrown.home.trans h.home, hgrown.aliases.trans h.aliases, ?_⟩
  by_cases hk : calledKey state stage = some ("set-location" : Text)
  · obtain ⟨home, hhome⟩ := hh
    obtain ⟨current, hcurrent, hon⟩ := h.location
    rw [← leaves_congr h.aliases, leaves, decide_eq_true hk, Bool.true_and] at hl
    rw [runStage_setLocation hk, hcurrent, h.home, hhome]
    cases ht : (tokenize stage).tail with
    | nil =>
      rw [ht] at hl
      cases hl
    | cons target rest =>
      rw [ht] at hl
      rw [locationTarget, follow_str]
      exact ⟨_, rfl, resolve_on hon hl home⟩
  · rw [runStage_location_eq hk]
    exact h.location

/-- **A line of which no stage leaves stays on its drive.** -/
theorem execute_on (hr : interpreter.registry = .default)
    (hh : ∃ home, interpreter.state.home = .str home)
    (hc : IsPath (On letter) interpreter.state.location) {line : Option Text}
    (hl : ∀ stage ∈ stages (trimmed line), leaves interpreter.state stage = false) :
    IsPath (On letter) (interpreter.execute line).2.state.location := by
  have hrun : OnDrive letter interpreter.state (interpreter.execute line).2.state := by
    refine (execute_inTurn interpreter line).keeps (fun stage hstage s hs => ?_) ⟨rfl, rfl, hc⟩
    rw [hr]
    exact runStage_onDrive hh (hl stage hstage) hs
  exact hrun.location

theorem driveOf_eq (h : IsPath (On letter) location) : driveOf location = [letter, ':'] := by
  obtain ⟨path, rfl, hon⟩ := h
  obtain ⟨rest, rfl⟩ := hon.isPrefix
  rfl

/-- A session that is created at a home on a drive is at that home. -/
theorem created_at_home {home : Text} {extraAliases : Value} (hd : hasDrive home = true)
    (h : State.create (.str home) extraAliases = .ok state) :
    state.home = .str home ∧ state.location = .str home := by
  obtain ⟨hlocation, hhome⟩ := State.location_of_create h
  have htruthy : (Value.str home).truthy = true := by
    cases home with
    | nil => cases hd
    | cons c rest => rfl
  rw [Value.orElse, if_pos htruthy] at hlocation
  exact ⟨hhome.trans hlocation, hlocation⟩

/-- **A session stays on its drives.** From its creation at a home on a drive on, its location is on
a drive, has a slash only if the home has, and changes its drive only by a stage that leaves. -/
theorem executeAll_on_drive (interpreter : Interpreter) (home : Text) (extraAliases : Value)
    (hr : interpreter.registry = .default)
    (hcreate : State.create (.str home) extraAliases = .ok interpreter.state)
    (hd : hasDrive home = true) (lines : List (Option Text)) :
    IsPath (hasDrive · = true) (executeAll interpreter lines).state.location ∧
    ('/' ∉ home → IsPath ('/' ∉ ·) (executeAll interpreter lines).state.location) ∧
    ∀ line, (∀ stage ∈ stages (trimmed line),
        leaves (executeAll interpreter lines).state stage = false) →
      driveOf ((executeAll interpreter lines).execute line).2.state.location =
        driveOf (executeAll interpreter lines).state.location := by
  obtain ⟨hhome, hlocation⟩ := created_at_home hd hcreate
  have hdrive : IsPath (hasDrive · = true) (executeAll interpreter lines).state.location :=
    (executeAll_within resolve_hasDrive hr ⟨⟨home, hhome, hd⟩, ⟨home, hlocation, hd⟩⟩
      lines).location
  refine ⟨hdrive, fun hn => ?_, fun line hl => ?_⟩
  · exact (executeAll_within resolve_unslashed hr ⟨⟨home, hhome, hn⟩, ⟨home, hlocation, hn⟩⟩
      lines).location
  · obtain ⟨current, hcurrent, hon⟩ := hdrive
    obtain ⟨letter, hon⟩ := hasDrive_iff.mp hon
    have hreached : IsPath (On letter) (executeAll interpreter lines).state.location :=
      ⟨current, hcurrent, hon⟩
    have hkept : (executeAll interpreter lines).state.home = interpreter.state.home :=
      (executeAll_grown (hr ▸ default_keeping) lines).home
    have hlater := execute_on ((executeAll_registry lines interpreter).trans hr)
      ⟨home, hkept.trans hhome⟩ hreached hl
    rw [driveOf_eq hlater, driveOf_eq hreached]

/-- A home with a drive. -/
def userHome : Text := "C:\\Users\\me"

/-- The home variable is set to a path with slashes, and a change of location follows it. -/
def moving : List (Option Text) := [some "Set-Variable HOME d:/x", some "cd"]

/-- The session moves to another drive, and a line of steps up and down does not leave that. -/
theorem executeAll_on_drive_moving :
    (fresh userHome).registry = .default ∧
    State.create (.str userHome) .null = .ok (fresh userHome).state ∧
    hasDrive userHome = true ∧ '/' ∉ userHome ∧
    (∀ stage ∈ stages (trimmed (some "cd .. | cd y/z")),
      leaves (executeAll (fresh userHome) moving).state stage = false) ∧
    IsPath (hasDrive · = true) (executeAll (fresh userHome) moving).state.location ∧
    IsPath ('/' ∉ ·) (executeAll (fresh userHome) moving).state.location ∧
    driveOf ((executeAll (fresh userHome) moving).execute
      (some "cd .. | cd y/z")).2.state.location =
      driveOf (executeAll (fresh userHome) moving).state.location := by
  have hd : hasDrive userHome = true := by decide
  have hn : '/' ∉ userHome := by decide
  have hl : ∀ stage ∈ stages (trimmed (some "cd .. | cd y/z")),
      leaves (executeAll (fresh userHome) moving).state stage = false := by decide +kernel
  obtain ⟨hdrive, hslash, hkept⟩ :=
    executeAll_on_drive (fresh userHome) userHome .null rfl (create_fresh userHome) hd moving
  exact ⟨rfl, create_fresh userHome, hd, hn, hl, hdrive, hslash hn, hkept _ hl⟩

end CmdletShell.Proofs.Runs.Locations
