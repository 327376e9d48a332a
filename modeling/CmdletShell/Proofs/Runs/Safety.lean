import CmdletShell.Proofs.Lines.Stages
import CmdletShell.Proofs.Runs.Actions

/-!
# What holds along a line

An outcome is `Safe` if the state that it leaves, the reason for which it fails and the entries that
it notes are of given kinds. If the stages of a line are, the line is: `safe_runLine`.
-/

namespace CmdletShell.Proofs.Runs.Safety

open CmdletShell.Interpreter CmdletShell.Line CmdletShell.Text
open CmdletShell.Proofs.Lines.Stages CmdletShell.Proofs.Runs.Actions

/-- **A safe outcome**: `I` holds of the state it leaves, `P` of the reason for which it fails, and
`Q` of what it notes. -/
structure Safe {α : Type} (I : State → Prop) (P : Failure → Prop) (Q : Entry → Prop)
    (outcome : Outcome α) : Prop where
  kept : I outcome.state
  reason : ∀ failure, outcome.result = .error failure → P failure
  noted : ∀ entry ∈ outcome.entries, Q entry

variable {α β : Type} {I : State → Prop} {P : Failure → Prop} {Q : Entry → Prop} {state : State}

theorem Safe.after {outcome : Outcome α} {entries : Journal} (h : Safe I P Q outcome)
    (he : ∀ entry ∈ entries, Q entry) : Safe I P Q (outcome.after entries) where
  kept := h.kept
  reason := h.reason
  noted entry hmem := (List.mem_append.mp hmem).elim (he entry) (h.noted entry)

theorem safe_pure (value : α) (hs : I state) : Safe I P Q ((pure value : Action α).run state) where
  kept := hs
  reason _ h := by cases h
  noted _ h := by cases h

theorem safe_note {level : Level} {source message : Text} (hq : Q ⟨level, source, message⟩)
    (hs : I state) : Safe I P Q ((Action.note level source message).run state) where
  kept := hs
  reason _ h := by cases h
  noted entry h := by obtain rfl := List.mem_singleton.mp h; exact hq

/-- Parts that are safe make an action that is. -/
theorem safe_bind {action : Action α} {next : α → Action β} (h : Safe I P Q (action.run state))
    (hn : ∀ value after, I after → Safe I P Q ((next value).run after)) :
    Safe I P Q ((action >>= next).run state) := by
  cases hr : (action.run state).result with
  | error failure =>
    rw [bind_error hr]
    refine ⟨h.kept, fun failure' hf => ?_, h.noted⟩
    cases hf
    exact h.reason failure hr
  | ok value =>
    rw [bind_ok hr]
    exact (hn value _ h.kept).after h.noted

/-! ### Stages -/

section Stages
variable {registry : Registry} {context : Context}

theorem safe_runStages {run : Nat → Text → Action Reply} : ∀ (numbered : List (Text × Nat))
    (output : Value) (state : State),
    (∀ entry ∈ numbered, ∀ s, I s → Safe I P Q ((run entry.2 entry.1).run s)) → I state →
    Safe I P Q ((runStages run output numbered).run state)
  | [], output, _, _, hs => safe_pure output hs
  | (stage, index) :: rest, output, state, hrun, hs => by
    rw [runStages]
    refine safe_bind (hrun (stage, index) List.mem_cons_self state hs) fun reply after ha => ?_
    exact safe_runStages rest reply.output after
      (fun entry he => hrun entry (List.mem_cons_of_mem _ he)) ha

/-- A stage of a pipeline is noted as a detail. -/
theorem safe_runNumbered (hq : ∀ entry : Entry, entry.level = .debug → Q entry) {stage : Text}
    (h : ∀ s, I s → Safe I P Q ((runStage registry context stage).run s)) (count index : Nat)
    (hs : I state) : Safe I P Q ((runNumbered registry context count index stage).run state) := by
  unfold runNumbered
  exact safe_bind (safe_note (hq _ rfl) hs) fun _ after ha => h after ha

/-- **A line is safe if its stages are.** -/
theorem safe_runLine (hq : ∀ entry : Entry, entry.level = .debug → Q entry) {line : Text}
    (hl : strip line = line)
    (hstage : ∀ stage ∈ stages line, ∀ s, I s → Safe I P Q ((runStage registry context stage).run s))
    (hs : I state) : Safe I P Q ((runLine registry context line).run state) := by
  unfold runLine
  split
  · refine safe_bind (safe_runStages _ _ state (fun entry he s hs => ?_) hs)
      fun output after ha => safe_pure _ ha
    have hmem : entry.1 ∈ stages line := List.fst_mem_of_mem_zipIdx he
    exact safe_runNumbered hq (hstage entry.1 hmem) _ _ hs
  · next hp =>
    have hmem : line ∈ stages line := by
      rw [stages_of_single (by simpa using hp), hl]
      exact List.mem_singleton_self line
    exact hstage line hmem state hs

end Stages

end CmdletShell.Proofs.Runs.Safety
