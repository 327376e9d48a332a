import CmdletShell.Proofs.Runs.Pipelines
import CmdletShell.Shell.Loop

/-!
# Steps of the shell

`outcome` is what a step comes to in a shell, with the shell it leaves; a step that breaks leaves
what it did before. A step `Relates` shells if the one it leaves is related to the one before it,
however it ends.

`Ran` says what has happened between two shells: which lines have run, how many were asked for, and
that no farewell was shown. A step is `Aside` if, in whatever way it ends, it has run no line and
asked for none. Steps made of such steps are such steps (`aside_bind`), so all that is left to look
at is what is put on the screen.
-/

namespace CmdletShell.Proofs.Shells.Steps

open CmdletShell.Shell CmdletShell.Display
open CmdletShell.Proofs.Runs.Execution

/-- What a step comes to in a shell, and the shell that it leaves. -/
def outcome {α : Type} (step : Step α) (shell : Shell) : Except Fault α × Shell :=
  StateT.run (ExceptT.run step) shell

/-- Whether a step comes to a value. -/
def succeeds {α : Type} (step : Step α) (shell : Shell) : Bool :=
  (outcome step shell).1.isOk

section Equations
variable {α β : Type} {step : Step α} {next : α → Step β} {shell after : Shell}

theorem outcome_get (shell : Shell) : outcome get shell = (.ok shell, shell) := rfl

theorem outcome_modify (f : Shell → Shell) (shell : Shell) :
    outcome (modify f) shell = (.ok (), f shell) := rfl

theorem outcome_attempt (result : Except Fault α) (shell : Shell) :
    outcome (attempt result) shell = (result, shell) := by
  cases result <;> rfl

theorem outcome_bind (step : Step α) (next : α → Step β) (shell : Shell) :
    outcome (step >>= next) shell =
      match outcome step shell with
      | (.ok value, after) => outcome (next value) after
      | (.error fault, after) => (.error fault, after) := by
  have h : outcome (step >>= next) shell =
      ((ExceptT.bindCont next) (outcome step shell).1 : StateM Shell (Except Fault β)).run
        (outcome step shell).2 := rfl
  rw [h]
  rcases outcome step shell with ⟨_ | _, after⟩ <;> rfl

theorem outcome_bind_ok {value : α} (h : outcome step shell = (.ok value, after)) :
    outcome (step >>= next) shell = outcome (next value) after := by
  rw [outcome_bind, h]

theorem outcome_bind_error {fault : Fault} (h : outcome step shell = (.error fault, after)) :
    outcome (step >>= next) shell = (.error fault, after) := by
  rw [outcome_bind, h]

theorem outcome_tryCatch (step : Step α) (handler : Fault → Step α) (shell : Shell) :
    outcome (tryCatch step handler) shell =
      match outcome step shell with
      | (.ok value, after) => (.ok value, after)
      | (.error fault, after) => outcome (handler fault) after := by
  unfold outcome
  simp only [tryCatch, tryCatchThe, MonadExceptOf.tryCatch, ExceptT.tryCatch, ExceptT.run,
    ExceptT.mk, StateT.run_bind]
  rcases StateT.run step shell with ⟨_ | _, after⟩ <;> rfl

/-- What two steps come to, both have come to something. -/
theorem exists_of_bind {result : β} (h : outcome (step >>= next) shell = (.ok result, after)) :
    ∃ value middle, outcome step shell = (.ok value, middle) ∧
      outcome (next value) middle = (.ok result, after) := by
  rw [outcome_bind] at h
  generalize outcome step shell = first at h ⊢
  rcases first with ⟨_ | value, middle⟩
  · cases h
  · exact ⟨value, middle, rfl, h⟩

theorem exists_of_succeeds (h : succeeds step shell = true) :
    ∃ value after, outcome step shell = (.ok value, after) := by
  unfold succeeds at h
  generalize outcome step shell = result at h ⊢
  rcases result with ⟨_ | value, after⟩
  · cases h
  · exact ⟨value, after, rfl⟩

theorem succeeds_of_outcome {value : α} (h : outcome step shell = (.ok value, after)) :
    succeeds step shell = true := by
  unfold succeeds
  rw [h]
  rfl

theorem succeeds_bind_ok {value : α} (h : outcome step shell = (.ok value, after)) :
    succeeds (step >>= next) shell = succeeds (next value) after := by
  rw [succeeds, outcome_bind_ok h, succeeds]

theorem succeeds_bind : succeeds (step >>= next) shell = true ↔
    ∃ value after, outcome step shell = (.ok value, after) ∧
      succeeds (next value) after = true := by
  constructor
  · intro h
    obtain ⟨result, last, ho⟩ := exists_of_succeeds h
    obtain ⟨value, after, hs, hn⟩ := exists_of_bind ho
    exact ⟨value, after, hs, succeeds_of_outcome hn⟩
  · rintro ⟨value, after, hs, hn⟩
    rwa [succeeds_bind_ok hs]

theorem succeeds_bind_of (h : succeeds step shell = true)
    (h' : ∀ value after, succeeds (next value) after = true) :
    succeeds (step >>= next) shell = true := by
  obtain ⟨value, after, ho⟩ := exists_of_succeeds h
  exact succeeds_bind.mpr ⟨value, after, ho, h' value after⟩

/-- **A view can be shown if each of its parts can.** -/
theorem succeeds_display : ∀ (view : View) (shell : Shell),
    succeeds (display view) shell = view.all (·.isOk)
  | [], _ => rfl
  | .error _ :: _, _ => rfl
  | .ok _ :: view, _ => succeeds_display view _

end Equations

/-! ### What a step does to the shell -/

/-- Whatever the step comes to, the shell that it leaves is related to the one that it was taken
in. -/
def Relates (R : Shell → Shell → Prop) {α : Type} (step : Step α) : Prop :=
  ∀ shell, R shell (outcome step shell).2

section Relates
variable {R : Shell → Shell → Prop} {α β : Type} {step : Step α} {next : α → Step β}

theorem relates_pure (refl : ∀ shell, R shell shell) (value : α) : Relates R (pure value) :=
  fun shell => refl shell

theorem relates_get (refl : ∀ shell, R shell shell) : Relates R (get : Step Shell) :=
  fun shell => refl shell

theorem relates_attempt (refl : ∀ shell, R shell shell) (result : Except Fault α) :
    Relates R (attempt result) := by
  intro shell
  rw [outcome_attempt]
  exact refl shell

theorem relates_modify {f : Shell → Shell} (h : ∀ shell, R shell (f shell)) :
    Relates R (modify f) :=
  fun shell => h shell

variable (trans : ∀ {first second third}, R first second → R second third → R first third)
include trans

theorem relates_bind (h : Relates R step) (h' : ∀ value, Relates R (next value)) :
    Relates R (step >>= next) := by
  intro shell
  have hstep := h shell
  rw [outcome_bind]
  generalize outcome step shell = result at hstep
  rcases result with ⟨_ | value, after⟩
  · exact hstep
  · exact trans hstep (h' value after)

theorem relates_forM (refl : ∀ shell, R shell shell) {things : List β} {act : β → Step Unit}
    (h : ∀ thing ∈ things, Relates R (act thing)) : Relates R (things.forM act) := by
  induction things with
  | nil => exact relates_pure refl ()
  | cons thing things ih =>
    refine relates_bind trans (h thing (by simp)) fun _ => ?_
    exact ih fun thing' ht => h thing' (by simp [ht])

end Relates

/-! ### Steps that run no line -/

/-- The last words of a session. -/
def farewell : Printed := .label (.markup "[yellow]Goodbye![/yellow]")

/-- Whether a request asks for a line. -/
def asksLine : Request → Bool
  | .readLine .. => true
  | .keepHistory _ => false

/-- How many lines have been asked for. -/
def asked (shell : Shell) : Nat := shell.requests.countP asksLine

/-- On the way from one shell to the other these lines have run, one after another, that many lines
were asked for, and no farewell was shown. -/
structure Ran (lines : List Text) (count : Nat) (before after : Shell) : Prop where
  registry : after.interpreter.registry = before.interpreter.registry
  context : after.interpreter.context = before.interpreter.context
  state : after.interpreter.state = (executeAll before.interpreter (lines.map some)).state
  history : after.history = before.history ++ lines
  asked : asked after = asked before + count
  printed : ∃ shown, after.printed = before.printed ++ shown ∧ farewell ∉ shown

/-- No line has run on the way from one shell to the other, none was asked for, and no farewell was
shown. -/
abbrev Idle : Shell → Shell → Prop := Ran [] 0

theorem Idle.refl (shell : Shell) : Idle shell shell :=
  ⟨rfl, rfl, rfl, by simp, rfl, [], by simp, by simp⟩

theorem Ran.trans {first second third : Shell} {lines lines' : List Text} {count count' : Nat}
    (h : Ran lines count first second) (h' : Ran lines' count' second third) :
    Ran (lines ++ lines') (count + count') first third := by
  obtain ⟨shown, heq, hno⟩ := h.printed
  obtain ⟨shown', heq', hno'⟩ := h'.printed
  have hstate : (executeAll second.interpreter (lines'.map some)).state =
      (executeAll (executeAll first.interpreter (lines.map some)) (lines'.map some)).state :=
    executeAll_state_congr _ (by rw [executeAll_registry, h.registry])
      (by rw [executeAll_context, h.context]) h.state
  refine ⟨h'.registry.trans h.registry, h'.context.trans h.context, ?_, ?_, ?_,
    shown ++ shown', ?_, by simp [hno, hno']⟩
  · rw [h'.state, hstate, List.map_append, executeAll_append]
  · rw [h'.history, h.history, List.append_assoc]
  · rw [h'.asked, h.asked, Nat.add_assoc]
  · rw [heq', heq, List.append_assoc]

/-- **A step runs no line**, whatever it comes to. -/
def Aside {α : Type} (step : Step α) : Prop :=
  ∀ shell, Idle shell (outcome step shell).2

/-- Unless the step breaks, these lines have run and that many were asked for. -/
def Runs {α : Type} (lines : List Text) (count : Nat) (step : Step α) : Prop :=
  ∀ shell value after, outcome step shell = (.ok value, after) → Ran lines count shell after

section Aside
variable {α β : Type} {step : Step α} {next : α → Step β}

theorem aside_pure (value : α) : Aside (pure value) := relates_pure Idle.refl value

theorem aside_get : Aside (get : Step Shell) := relates_get Idle.refl

theorem aside_attempt (result : Except Fault α) : Aside (attempt result) :=
  relates_attempt Idle.refl result

theorem aside_modify {f : Shell → Shell} (h : ∀ shell, Idle shell (f shell)) : Aside (modify f) :=
  relates_modify h

theorem aside_bind (h : Aside step) (h' : ∀ value, Aside (next value)) : Aside (step >>= next) :=
  relates_bind Ran.trans h h'

/-- What follows a step that is aside runs what the two run together. -/
theorem runs_bind {lines : List Text} {count : Nat} (h : Aside step)
    (h' : ∀ value, Runs lines count (next value)) : Runs lines count (step >>= next) := by
  intro shell result after ho
  obtain ⟨value, middle, hs, hn⟩ := exists_of_bind ho
  have hstep := h shell
  rw [hs] at hstep
  have hran := hstep.trans (h' value middle result after hn)
  rwa [List.nil_append, Nat.zero_add] at hran

theorem aside_forM {things : List β} {act : β → Step Unit}
    (h : ∀ thing ∈ things, Aside (act thing)) :
    Aside (things.forM act) :=
  relates_forM Ran.trans Idle.refl h

theorem aside_put {thing : Printed} (h : thing ≠ farewell) : Aside (put thing) := by
  refine aside_modify fun shell => ⟨rfl, rfl, rfl, by simp, rfl, [thing], rfl, ?_⟩
  simpa using h.symm

theorem aside_note (level : Level) (message : Text) : Aside (note level message) :=
  aside_modify fun shell => ⟨rfl, rfl, rfl, by simp, rfl, [], by simp, by simp⟩

/-- A view without the farewell is shown aside. -/
theorem aside_display {view : View} (h : .ok farewell ∉ view) : Aside (display view) := by
  refine aside_forM fun thing ht shell => ?_
  have hthing := outcome_attempt thing shell
  cases thing with
  | error fault =>
    rw [outcome_bind_error hthing]
    exact .refl shell
  | ok thing =>
    rw [outcome_bind_ok hthing]
    refine aside_put ?_ shell
    rintro rfl
    exact h ht

end Aside

end CmdletShell.Proofs.Shells.Steps
