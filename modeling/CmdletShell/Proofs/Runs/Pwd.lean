import CmdletShell.Proofs.Runs.Writers
import Mathlib.Data.List.Induction

/-!
# `PWD` along a run

A session goes through events: lines are executed, and variables are written from outside. What they
come to are deeds: the location was changed, or a variable was written (`history`). A stage does one
of these if it calls `Set-Location` or `Set-Variable` and succeeds, and nothing of the kind if not.
So what is tracked along the deeds (`Tracks`) fits the state that the events lead to, by induction
over the stages of a line and then over the events (`after_tracks`).

`PWD` holds what was last written to it since the last change of location, and the location if
nothing was (`pwd_follows`). What is tracked is the value that stands in the way of the location so
far (`heed`, `Holds`).
-/

namespace CmdletShell.Proofs.Runs.Pwd

open CmdletShell.Interpreter CmdletShell.Line CmdletShell.Location CmdletShell.Cmdlet
open CmdletShell.Proofs.Builtins.Changes
open CmdletShell.Proofs.Runs.Execution CmdletShell.Proofs.Runs.Frame CmdletShell.Proofs.Runs.Writers

/-! ### Events and deeds -/

/-- Something done to the location or to a variable. -/
inductive Deed where
  /-- The location was changed. -/
  | moved
  /-- A variable was written. -/
  | wrote (name : Text) (value : Value)

/-- The variable that a deed writes. -/
def Deed.variable? : Deed → Option Text
  | .moved => none
  | .wrote name _ => some name

/-- What a stage does if it succeeds. The name is that of the variable, without dollar signs. -/
def deedOf? (state : State) (stage : Text) : Option Deed :=
  if calledKey state stage = some ("set-location" : Text) then some .moved
  else if calledKey state stage = some ("set-variable" : Text) then
    match assignment (tokenize stage).tail with
    | .ok (name, value) => some (.wrote name (.str value))
    | .error _ => none
  else none

/-- The deeds of stages that run in turn until one fails. -/
def deeds (registry : Registry) (context : Context) : State → List Text → List Deed
  | _, [] => []
  | state, stage :: rest =>
    match ((runStage registry context stage).run state).result with
    | .ok _ => (deedOf? state stage).toList ++
        deeds registry context ((runStage registry context stage).run state).state rest
    | .error _ => []

/-- What happens to a session. -/
inductive Event where
  /-- A line is executed. -/
  | execute (line : Option Text)
  /-- A variable is written from outside. -/
  | write (name : Text) (value : Value)

/-- The interpreter after an event. -/
def Event.apply (interpreter : Interpreter) : Event → Interpreter
  | .execute line => (interpreter.execute line).2
  | .write name value => interpreter.change (State.assign name value)

/-- The deeds of an event. -/
def Event.deeds (interpreter : Interpreter) : Event → List Deed
  | .execute line => Pwd.deeds interpreter.registry interpreter.context interpreter.state
      (stages (trimmed line))
  | .write name value => [.wrote name value]

/-- The interpreter after events. -/
def after (interpreter : Interpreter) (events : List Event) : Interpreter :=
  events.foldl Event.apply interpreter

/-- The deeds of events, in order. -/
def history : Interpreter → List Event → List Deed
  | _, [] => []
  | interpreter, event :: events =>
    event.deeds interpreter ++ history (event.apply interpreter) events

theorem history_append : ∀ (events more : List Event) (interpreter : Interpreter),
    history interpreter (events ++ more) =
      history interpreter events ++ history (after interpreter events) more
  | [], _, _ => rfl
  | event :: events, more, interpreter => by
    rw [List.cons_append, history, history, history_append events more, List.append_assoc]
    rfl

variable {context : Context} {state final : State} {stage : Text} {stages : List Text}

/-! ### What is tracked along deeds -/

section Tracks
variable {α : Type} {track : α → Deed → α} {Fits : State → α → Prop} {tracked : α}

/-- **What is tracked fits the state**: after a change of location, after a variable is written, and
as long as neither happens. -/
structure Tracks (track : α → Deed → α) (Fits : State → α → Prop) : Prop where
  moved : ∀ {state tracked} location, Fits state tracked →
    Fits (state.moveTo location) (track tracked .moved)
  wrote : ∀ {state tracked} name value, Fits state tracked →
    Fits (state.assign name value) (track tracked (.wrote name value))
  other : ∀ {state other : State} {tracked}, other.bindings = state.bindings →
    other.location = state.location → Fits state tracked → Fits other tracked

/-- A stage that succeeds does its deed. -/
theorem runStage_tracks {reply : Reply} (ht : Tracks track Fits) (h : Fits state tracked)
    (hr : ((runStage .default context stage).run state).result = .ok reply) :
    Fits ((runStage .default context stage).run state).state
      ((deedOf? state stage).toList.foldl track tracked) := by
  by_cases hl : calledKey state stage = some ("set-location" : Text)
  · rw [deedOf?, if_pos hl]
    rw [runStage_setLocation hl] at hr ⊢
    cases hf : follow state.location (locationTarget state (tokenize stage).tail) state.home with
    | error fault => rw [hf] at hr; cases hr
    | ok location => exact ht.moved location h
  by_cases hv : calledKey state stage = some ("set-variable" : Text)
  · rw [deedOf?, if_neg hl, if_pos hv]
    rw [runStage_setVariable hv] at hr ⊢
    cases ha : assignment (tokenize stage).tail with
    | error failure => rw [ha] at hr; cases hr
    | ok pair => exact ht.wrote pair.1 (.str pair.2) h
  · rw [deedOf?, if_neg hl, if_neg hv]
    exact ht.other (runStage_bindings_eq hl hv) (runStage_location_eq hl) h

/-- A stage that fails does nothing. -/
theorem runStage_error_state {failure : Failure}
    (hr : ((runStage .default context stage).run state).result = .error failure) :
    ((runStage .default context stage).run state).state = state := by
  rcases @runStage_keeping .default context state default_keeping stage with
    ⟨-, reply, -, hok, -⟩ | ⟨failure, -, -, hsame⟩
  · rw [hok] at hr
    cases hr
  · exact hsame

/-- **Stages do their deeds.** -/
theorem inTurn_tracks (ht : Tracks track Fits) (hrun : InTurn .default context state stages final)
    (h : Fits state tracked) :
    Fits final ((Pwd.deeds .default context state stages).foldl track tracked) := by
  induction hrun generalizing tracked with
  | done => exact h
  | failed hr =>
    rw [Pwd.deeds, hr, runStage_error_state hr]
    exact h
  | passed hr _ ih =>
    rw [Pwd.deeds, hr, List.foldl_append]
    exact ih (runStage_tracks ht h hr)

/-- **Events do their deeds.** -/
theorem after_tracks (ht : Tracks track Fits) : ∀ (events : List Event) {interpreter : Interpreter}
    {tracked : α}, interpreter.registry = .default → Fits interpreter.state tracked →
    Fits (after interpreter events).state ((history interpreter events).foldl track tracked)
  | [], _, _, _, h => h
  | event :: events, interpreter, tracked, hr, h => by
    rw [history, List.foldl_append]
    cases event with
    | execute line =>
      have hrun := execute_inTurn interpreter line
      rw [hr] at hrun
      have hline : Fits (interpreter.execute line).2.state
          ((Event.deeds interpreter (.execute line)).foldl track tracked) := by
        rw [Event.deeds, hr]
        exact inTurn_tracks ht hrun h
      exact after_tracks ht events ((execute_registry interpreter line).trans hr) hline
    | write name value => exact after_tracks ht events hr (ht.wrote name value h)

end Tracks

/-! ### What stands in the way of the location -/

/-- The value last written to `PWD` since the last change of location, after a further deed. -/
def heed (standing : Option Value) : Deed → Option Value
  | .moved => none
  | .wrote name value => if name = "PWD" then some value else standing

/-- `PWD` is the value that stands, and the location if there is none. -/
def Holds (state : State) (standing : Option Value) : Prop :=
  state.valueOf? "PWD" = some (standing.getD state.location)

variable {standing : Option Value} {value : Value} {deeds later : List Deed}

theorem holds_moveTo (location : Value) (state : State) : Holds (state.moveTo location) none := by
  rw [Holds, State.valueOf?, State.moveTo, Fields.get?_put, if_pos rfl]
  rfl

theorem holds_assign (h : Holds state standing) (name : Text) (value : Value) :
    Holds (state.assign name value) (heed standing (.wrote name value)) := by
  rw [Holds, State.valueOf?] at h
  rw [Holds, State.valueOf?, State.assign, Fields.get?_put, heed]
  by_cases hn : name = "PWD"
  · rw [if_pos hn, if_pos hn.symm]
    rfl
  · rw [if_neg hn, if_neg (Ne.symm hn)]
    exact h

theorem tracks_standing : Tracks heed Holds where
  moved location _ := holds_moveTo location _
  wrote name value h := holds_assign h name value
  other hb hl h := by
    rw [Holds, State.valueOf?, hb, hl]
    exact h

/-! ### The last deed that counts -/

/-- Nothing stands in the way if the location was changed after each writing of `PWD`. -/
theorem foldl_heed_eq_none (h : ∀ before value later,
    deeds = before ++ .wrote "PWD" value :: later → .moved ∈ later) :
    deeds.foldl heed none = none := by
  induction deeds using List.reverseRecOn with
  | nil => rfl
  | append_singleton deeds deed ih =>
    rw [List.foldl_append, List.foldl_cons, List.foldl_nil]
    cases deed with
    | moved => rfl
    | wrote name value =>
      have hname : name ≠ "PWD" := by
        rintro rfl
        exact List.not_mem_nil (h deeds value [] rfl)
      rw [heed, if_neg hname]
      refine ih fun before value' later hd => ?_
      have hm := h before value' (later ++ [.wrote name value]) (by rw [hd]; simp)
      simpa using hm

/-- What was last written to `PWD` stands until the location is changed. -/
theorem foldl_heed_eq_some (hm : .moved ∉ later) (hw : ∀ other, .wrote "PWD" other ∉ later) :
    later.foldl heed (some value) = some value := by
  induction later with
  | nil => rfl
  | cons deed later ih =>
    have hdeed : heed (some value) deed = some value := by
      cases deed with
      | moved => exact absurd List.mem_cons_self hm
      | wrote name other =>
        have hname : name ≠ "PWD" := by
          rintro rfl
          exact hw other List.mem_cons_self
        rw [heed, if_neg hname]
    rw [List.foldl_cons, hdeed]
    exact ih (fun h => hm (.tail _ h)) fun other h => hw other (.tail _ h)

/-- **`PWD` follows the location**, from the creation of a session on: it is the location if no
writing of `PWD` comes after the last change of location, and what was last written if one does. -/
theorem pwd_follows (interpreter : Interpreter) (home extraAliases : Value)
    (hr : interpreter.registry = .default)
    (hcreate : State.create home extraAliases = .ok interpreter.state) (events : List Event) :
    ((∀ before value later,
        history interpreter events = before ++ .wrote "PWD" value :: later → .moved ∈ later) →
      (after interpreter events).state.valueOf? "PWD" =
        some (after interpreter events).state.location) ∧
    ∀ before value later,
      history interpreter events = before ++ .wrote "PWD" value :: later → .moved ∉ later →
      (∀ other, .wrote "PWD" other ∉ later) →
      (after interpreter events).state.valueOf? "PWD" = some value := by
  have hstart : Holds interpreter.state none := State.pwd_of_create hcreate
  have hend := after_tracks tracks_standing events hr hstart
  constructor
  · intro hw
    rw [foldl_heed_eq_none hw] at hend
    exact hend
  · intro before value later hh hm hw
    have hlast : (history interpreter events).foldl heed none = some value := by
      rw [hh, List.foldl_append, List.foldl_cons, heed, if_pos rfl, foldl_heed_eq_some hm hw]
    rw [hlast] at hend
    exact hend

/-- A line that fails after it has written `PWD` and changed the location. -/
def aborted : Event := .execute (some "Set-Variable $PWD x | cd a | Nope | Set-Variable PWD y")

/-- The change of location counts, being the last deed before the failure, until `PWD` is written
from outside. -/
theorem pwd_follows_aborted :
    (fresh "C:").registry = .default ∧ State.create (.str "C:") .null = .ok (fresh "C:").state ∧
    (∀ before value later,
      history (fresh "C:") [aborted] = before ++ .wrote "PWD" value :: later → .moved ∈ later) ∧
    (after (fresh "C:") [aborted]).state.valueOf? "PWD" =
      some (after (fresh "C:") [aborted]).state.location ∧
    history (fresh "C:") [aborted, .write "PWD" .null] =
      history (fresh "C:") [aborted] ++ [.wrote "PWD" .null] ∧
    (after (fresh "C:") [aborted, .write "PWD" .null]).state.valueOf? "PWD" = some .null := by
  have hlast : (history (fresh "C:") [aborted]).getLast?.map Deed.variable? = some none := by
    decide +kernel
  have hmoved : ∀ before value later,
      history (fresh "C:") [aborted] = before ++ .wrote "PWD" value :: later → .moved ∈ later := by
    intro before value later hh
    rw [hh, List.getLast?_append_cons, List.getLast?_cons, Option.map_some,
      Option.some.injEq] at hlast
    cases hl : later.getLast? with
    | none =>
      rw [hl] at hlast
      cases hlast
    | some deed =>
      rw [hl] at hlast
      cases deed with
      | moved => exact List.mem_of_getLast? hl
      | wrote name other => cases hlast
  have hh : history (fresh "C:") [aborted, .write "PWD" .null] =
      history (fresh "C:") [aborted] ++ [.wrote "PWD" .null] :=
    history_append [aborted] [.write "PWD" .null] (fresh "C:")
  have hcreate := create_fresh "C:"
  have hfirst := pwd_follows (fresh "C:") (.str "C:") .null rfl hcreate [aborted]
  have hboth := pwd_follows (fresh "C:") (.str "C:") .null rfl hcreate
    [aborted, .write "PWD" .null]
  exact ⟨rfl, hcreate, hmoved, hfirst.1 hmoved, hh,
    hboth.2 _ _ [] hh List.not_mem_nil fun _ => List.not_mem_nil⟩

end CmdletShell.Proofs.Runs.Pwd
