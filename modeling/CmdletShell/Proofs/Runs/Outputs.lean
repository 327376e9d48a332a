import CmdletShell.Proofs.Builtins.Outputs
import CmdletShell.Proofs.Runs.Locations

/-!
# What a line puts out

While home and location are texts (`Placed`), every line that succeeds puts out a text
(`execute_text`): a built-in command puts out a text or the location, and a pipeline what its last
stage puts out. The induction is on the stages, along `runStages`; what carries it is that a stage
leaves home and location texts.
-/

namespace CmdletShell.Proofs.Runs.Outputs

open CmdletShell.Interpreter CmdletShell.Line CmdletShell.Text
open CmdletShell.Proofs.Builtins.Outputs
open CmdletShell.Proofs.Runs.Actions CmdletShell.Proofs.Runs.Execution
open CmdletShell.Proofs.Runs.Locations

/-- Home and location are texts. -/
abbrev Placed : State → Prop := Within fun _ => True

/-- The value is a text. -/
abbrev IsText (value : Value) : Prop := ∃ text, value = .str text

variable {context : Context} {state : State}

theorem Placed.isText_location (h : Placed state) : IsText state.location := by
  obtain ⟨path, hpath, -⟩ := h.location
  exact ⟨path, hpath⟩

theorem runStage_placed (h : Placed state) (stage : Text) :
    Placed ((runStage .default context stage).run state).state :=
  runStage_within (fun _ _ _ => trivial) h stage

/-- A stage that succeeds puts out a text. -/
theorem runStage_text (h : Placed state) {stage : Text} {reply : Reply}
    (hr : ((runStage .default context stage).run state).result = .ok reply) :
    IsText reply.output := by
  have hrun := runStage_run .default context stage state
  generalize (runStage .default context stage).run state = outcome at hr hrun
  cases hrun with
  | blank | untyped | unknown => cases hr
  | @ran typed args command _ hl =>
    unfold settle at hr
    split at hr
    · next found hfound =>
      cases hr
      rcases default_telling hl _ _ _ _ hfound with ht | hlocation
      · exact ht
      · exact hlocation ▸ h.isText_location
    · cases hr
    · cases hr

theorem runStages_text (count : Nat) : ∀ (numbered : List (Text × Nat)) {output : Value}
    {state : State} {last : Value}, Placed state → IsText output →
    ((runStages (runNumbered .default context count) output numbered).run state).result =
      .ok last → IsText last
  | [], output, _, last, _, ho, hr => by
    cases hr
    exact ho
  | (stage, index) :: rest, output, state, last, h, _, hr => by
    have hstate := runNumbered_state .default context count index stage state
    rw [runStages] at hr
    cases hs : ((runNumbered .default context count index stage).run state).result with
    | error failure => rw [bind_error hs] at hr; cases hr
    | ok reply =>
      rw [bind_ok hs, after_result, hstate] at hr
      exact runStages_text count rest (runStage_placed h stage) (runStage_text h hs) hr

theorem runLine_text (h : Placed state) {line : Text} {reply : Reply}
    (hr : ((runLine .default context line).run state).result = .ok reply) :
    IsText reply.output := by
  unfold runLine at hr
  split at hr
  · unfold runPipeline at hr
    cases hs : ((runStages (runNumbered .default context (stages line).length) (.str [])
        (stages line).zipIdx).run state).result with
    | error failure => rw [bind_error hs] at hr; cases hr
    | ok output =>
      rw [bind_ok hs] at hr
      cases hr
      exact runStages_text _ _ h ⟨[], rfl⟩ hs
  · exact runStage_text h hr

variable {interpreter : Interpreter}

/-- **What a line puts out is a text.** -/
theorem execute_text (hr : interpreter.registry = .default) (h : Placed interpreter.state)
    {line : Option Text} {result : Result} (he : (interpreter.execute line).1 = .ok result) :
    IsText result.output := by
  by_cases hb : trimmed line = []
  · obtain ⟨millis, timer, heq⟩ := execute_of_blank interpreter line hb
    rw [heq] at he
    cases he
    exact ⟨[], rfl⟩
  · obtain ⟨millis, hres⟩ := execute_result interpreter line hb
    rw [hres, hr] at he
    cases ho : ((runLine .default interpreter.context (trimmed line)).run
        interpreter.state).result with
    | ok reply =>
      rw [ho] at he
      cases he
      exact runLine_text h ho
    | error failure =>
      rw [ho] at he
      by_cases hf : failure = .fault .interrupted
      · rw [hf] at he
        cases he
      · rw [conclude_error hf] at he
        cases he
        exact ⟨[], rfl⟩

end CmdletShell.Proofs.Runs.Outputs
