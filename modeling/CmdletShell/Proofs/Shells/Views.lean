import CmdletShell.Proofs.Shells.Steps

/-!
# What the session shows

The farewell is shown by `goodbye` alone: no other view holds it. So the session commands, whatever
they show and however they break, and the showing of results run no line and end no session
(`aside_runSpecial`, `aside_displayResult`).
-/

namespace CmdletShell.Proofs.Shells.Views

open CmdletShell.Shell CmdletShell.Display
open CmdletShell.Proofs.Shells.Steps

section Views
variable (settings : Settings)

theorem farewell_not_mem_panelView (panel : Except Fault Panel) :
    .ok farewell ∉ panelView panel := by
  cases panel <;> simp [panelView, Except.map, farewell]

theorem farewell_not_mem_welcome (version location : Text) :
    .ok farewell ∉ welcome settings version location := by
  have h := farewell_not_mem_panelView (welcomePanel settings version location)
  unfold welcome
  split
  · simp only [List.mem_append, h, false_or]
    simp [farewell]
  · simp

theorem farewell_not_mem_help (catalogue : Catalogue) : .ok farewell ∉ help settings catalogue := by
  unfold help
  split
  · simp
  · next lines _ =>
    have h := farewell_not_mem_panelView
      (notice settings (Text.joinWith ['\n'] lines) "Help" "info")
    simp only [List.mem_append, h, or_false]
    simp [farewell]

theorem farewell_not_mem_history (entries : List Text) :
    .ok farewell ∉ Display.history settings entries := by
  unfold Display.history
  split <;> exact farewell_not_mem_panelView _

theorem farewell_not_mem_result (line : Text) (result : Result) :
    .ok farewell ∉ Display.result settings line result := by
  unfold Display.result Display.failure
  split
  · exact farewell_not_mem_panelView _
  · split
    · simp
    · exact farewell_not_mem_panelView _

theorem farewell_not_mem_notFound (line message : Text) (suggestions : List Text) :
    .ok farewell ∉ notFound settings line message suggestions :=
  farewell_not_mem_panelView _

theorem farewell_not_mem_reloaded (path : Path) (loaded : Bool) :
    .ok farewell ∉ reloaded settings path loaded := by
  unfold reloaded
  split <;> exact farewell_not_mem_panelView _

/-- The words about freed objects begin otherwise than the farewell. -/
theorem farewell_not_mem_memory (before after : Fields Value) (collected : Text) :
    .ok farewell ∉ memory before after collected := by
  unfold memory markupView
  cases memoryTable before after <;> simp [Except.map, farewell]

theorem farewell_not_mem_interrupt : .ok farewell ∉ interrupt interruptMessage := by
  simp only [interrupt, markupView, farewell, List.mem_singleton]
  intro h
  cases h

end Views

/-! ### Session commands -/

theorem aside_settings : Aside Shell.settings :=
  aside_bind aside_get fun _ => aside_pure _

/-- What a shell is surrounded by has nothing to do with its lines. -/
theorem idle_surroundings (shell : Shell) (surroundings : Surroundings) :
    Idle shell { shell with surroundings } :=
  ⟨rfl, rfl, rfl, by simp, rfl, [], by simp, by simp⟩

theorem aside_chooseLexer : Aside chooseLexer := by
  refine aside_bind aside_get fun shell => aside_bind (aside_attempt _) fun text => ?_
  dsimp only
  split
  · exact aside_pure _
  · split
    · exact aside_pure _
    · exact aside_bind (aside_note _ _) fun _ => aside_pure _

theorem aside_renewLexer : Aside renewLexer :=
  aside_bind aside_chooseLexer fun _ =>
    aside_modify fun _ => ⟨rfl, rfl, rfl, by simp, rfl, [], by simp, by simp⟩

theorem aside_reload : Aside reload := by
  refine aside_bind aside_get fun shell =>
    aside_bind (aside_modify fun _ => idle_surroundings _ _) fun _ =>
      aside_bind (aside_attempt _) fun loaded => ?_
  split
  · exact aside_bind (aside_modify fun _ => idle_surroundings _ _) fun _ =>
      aside_bind aside_renewLexer fun _ => aside_display (farewell_not_mem_reloaded _ _ _)
  · exact aside_bind aside_renewLexer fun _ => aside_display (farewell_not_mem_reloaded _ _ _)

theorem aside_readMemory : Aside readMemory := by
  refine aside_bind aside_get fun shell => ?_
  split
  · exact aside_pure _
  · exact aside_bind (aside_modify fun _ => idle_surroundings _ _) fun _ => aside_pure _

theorem aside_cleanUp : Aside cleanUp :=
  aside_bind aside_readMemory fun _ => aside_bind aside_readMemory fun _ =>
    aside_bind aside_get fun _ => aside_bind (aside_note _ _) fun _ =>
      aside_display (farewell_not_mem_memory _ _ _)

/-- **A session command runs no line.** -/
theorem aside_runSpecial (special : Special) : Aside (runSpecial special) := by
  cases special with
  | exit => exact aside_pure _
  | help =>
    refine aside_bind (aside_bind aside_settings fun _ => aside_bind aside_get fun _ => ?_)
      fun _ => aside_pure _
    exact aside_display (farewell_not_mem_help _ _)
  | reload => exact aside_bind aside_reload fun _ => aside_pure _
  | cleanUp => exact aside_bind aside_cleanUp fun _ => aside_pure _
  | history =>
    refine aside_bind aside_settings fun _ => aside_bind aside_get fun _ => ?_
    exact aside_bind (aside_display (farewell_not_mem_history _ _)) fun _ => aside_pure _

/-- **Showing a result runs no line.** -/
theorem aside_displayResult (line : Text) (result : Result) :
    Aside (displayResult line result) := by
  refine aside_bind aside_settings fun settings => ?_
  split
  · exact aside_put (by simp [farewell])
  · split
    · exact aside_bind aside_get fun _ => aside_display (farewell_not_mem_notFound _ _ _ _)
    · exact aside_display (farewell_not_mem_result _ _ _)

/-! ### Before the first line -/

theorem aside_greet : Aside greet :=
  aside_bind aside_settings fun _ => aside_bind aside_get fun _ =>
    aside_display (farewell_not_mem_welcome _ _ _)

/-- The request for the history file asks for no line. -/
theorem aside_opening : Aside opening := by
  refine aside_bind aside_get fun shell => ?_
  have hopen : Aside (do
      request (.keepHistory shell.surroundings.site.history)
      modify fun shell => { shell with isOpen := true }) :=
    aside_bind (aside_modify fun shell => ⟨rfl, rfl, rfl, by simp, by simp [asked, asksLine], [],
        by simp, by simp⟩)
      fun _ => aside_modify fun _ => ⟨rfl, rfl, rfl, by simp, rfl, [], by simp, by simp⟩
  split
  · exact aside_pure _
  · refine aside_bind (aside_attempt _) fun storage =>
      aside_bind (aside_modify fun _ => idle_surroundings _ _) fun _ => ?_
    split
    · exact aside_bind (aside_attempt (.error .interrupted)) fun _ => hopen
    · exact hopen

end CmdletShell.Proofs.Shells.Views
