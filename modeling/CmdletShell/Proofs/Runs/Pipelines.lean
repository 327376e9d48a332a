import CmdletShell.Proofs.Builtins.Changes
import CmdletShell.Proofs.Runs.Execution
import CmdletShell.Proofs.Runs.Safety

/-!
# Pipelines are sequential

`executeInTurn` is the meaning of a pipeline: its stages are executed as lines of their own, one
after another on the state so far, and the first failure ends it. `execute_pipeline` says that
executing the line comes to the same state and, but for the time and the shape, to the same result.

The induction is on the stages, along `runStages`. What carries it is that a stage, being trimmed
and without a separator (`stage_plain`), is executed as the one command that the pipeline runs
(`execute_plain`).
-/

namespace CmdletShell.Proofs.Runs.Pipelines

open CmdletShell.Interpreter CmdletShell.Line CmdletShell.Text
open CmdletShell.Proofs.Lines.Strip CmdletShell.Proofs.Lines.Stages
open CmdletShell.Proofs.Builtins.Registry CmdletShell.Proofs.Builtins.Handlers
open CmdletShell.Proofs.Builtins.Changes
open CmdletShell.Proofs.Runs.Actions CmdletShell.Proofs.Runs.Execution
open CmdletShell.Proofs.Runs.Safety

/-- No handler of the registry asks to stop the program. -/
def Uninterrupted (registry : Registry) (context : Context) : Prop :=
  ∀ command ∈ registry.commands, ∀ args state,
    ((command.handler (surroundings registry context) args).run state).result ≠
      .error (.fault .interrupted)

/-- Commands that keep to what they may do ask to stop only if the store of items does. -/
theorem uninterrupted_of_keeps {registry : Registry} {context : Context}
    (hk : ∀ command ∈ registry.commands, Keeps command)
    (hs : ∀ fault, StoreFails context.items fault → fault ≠ .interrupted) :
    Uninterrupted registry context := by
  intro command hc args state hi
  rcases hk command hc (surroundings registry context) args state with
    ⟨reply, hres, -⟩ | ⟨failure, hres, hexcused, -⟩
  · rw [hres] at hi; cases hi
  · rw [hres] at hi
    cases hi
    cases hexcused with
    | deliberate hd => cases hd
    | store hf => exact hs _ hf rfl

/-- Executes stages one after another as lines of their own, until one fails; `last` is the result
so far. A stage without a character fails as a command without a name. -/
def executeInTurn (last : Result) : List Text → Interpreter → Except Fault Result × Interpreter
  | [], interpreter => (.ok last, interpreter)
  | [] :: _, interpreter => (.ok (failed (.notRecognized []) 0), interpreter)
  | stage :: rest, interpreter =>
    match interpreter.execute (some stage) with
    | (.error fault, interpreter) => (.error fault, interpreter)
    | (.ok result, interpreter) =>
      if result.success then executeInTurn result rest interpreter else (.ok result, interpreter)

/-! ### One stage -/

section Stage
variable {registry : Registry} {context : Context}

theorem settle_ne_interrupted {name : Text} {outcome : Outcome Answer}
    (h : outcome.result ≠ .error (.fault .interrupted)) :
    (settle name outcome).result ≠ .error (.fault .interrupted) := by
  unfold settle
  split
  · simp
  · simp
  · next failure heq =>
    rintro ⟨⟩
    exact h heq

theorem lookup_ne_interrupted {target : Value} {fault : Fault}
    (h : registry.lookup target = .error fault) : fault ≠ .interrupted := by
  rintro rfl
  cases target <;> cases h

theorem runStage_ne_interrupted (hq : Uninterrupted registry context) (stage : Text)
    (state : State) :
    ((runStage registry context stage).run state).result ≠ .error (.fault .interrupted) := by
  have hrun := runStage_run registry context stage state
  generalize (runStage registry context stage).run state = outcome at hrun
  cases hrun with
  | blank => simp
  | untyped _ hl => simpa using lookup_ne_interrupted hl
  | unknown => simp
  | ran _ hl => exact settle_ne_interrupted (hq _ (mem_commands_of_lookup hl) _ _)

theorem runLine_ne_interrupted (hq : Uninterrupted registry context) {line : Text}
    (hl : strip line = line) (state : State) :
    ((runLine registry context line).run state).result ≠ .error (.fault .interrupted) := by
  have hstage : ∀ stage ∈ stages line, ∀ s, True →
      Safe (fun _ => True) (· ≠ .fault .interrupted) (fun _ => True)
        ((runStage registry context stage).run s) := by
    refine fun stage _ s _ => ⟨trivial, ?_, fun _ _ => trivial⟩
    rintro failure hf rfl
    exact runStage_ne_interrupted hq stage s hf
  exact fun h => (safe_runLine (fun _ _ => trivial) hl hstage trivial).reason _ h rfl

/-- **Without an interrupt every line is reported on.** -/
theorem execute_reports {interpreter : Interpreter}
    (hq : Uninterrupted interpreter.registry interpreter.context) (line : Option Text) :
    ∃ result, (interpreter.execute line).1 = .ok result := by
  by_cases h : trimmed line = []
  · obtain ⟨millis, timer, he⟩ := execute_of_blank interpreter line h
    rw [he]
    exact ⟨_, rfl⟩
  · have hl : strip (trimmed line) = trimmed line := strip_strip (line.getD [])
    have hne := runLine_ne_interrupted hq hl interpreter.state
    rw [execute_timed interpreter line h]
    generalize ((runLine interpreter.registry interpreter.context (trimmed line)).run
      interpreter.state).result = reported at hne ⊢
    cases reported with
    | ok reply => exact ⟨_, rfl⟩
    | error failure => exact ⟨_, conclude_error (by simpa using hne) _⟩

/-- A trimmed line without a separator is executed as one command. -/
theorem execute_plain (interpreter : Interpreter) {stage : Text} (hs : Plain stage)
    (hne : stage ≠ []) :
    (∃ millis, (interpreter.execute (some stage)).1 = conclude millis
      ((runStage interpreter.registry interpreter.context stage).run interpreter.state).result) ∧
    (interpreter.execute (some stage)).2.state =
      ((runStage interpreter.registry interpreter.context stage).run interpreter.state).state := by
  have ht : trimmed (some stage) = stage := hs.stripped
  have h := execute_single interpreter (some stage) (by rw [ht]; exact hne)
    (by rw [ht]; exact hs.single)
  rwa [ht] at h

end Stage

/-! ### All stages -/

/-- The result of the last stage executed tells how the pipeline ends. -/
def Ends (last : Result) : Except Failure Value → Prop
  | .ok output => ∃ reply millis, reply.output = output ∧ last = succeeded reply millis
  | .error failure => failure ≠ .fault .interrupted ∧ ∃ millis, last = failed failure millis

section Turn
variable {interpreter : Interpreter} {stage : Text} {last result : Result}

theorem executeInTurn_ok (hne : stage ≠ [])
    (he : (interpreter.execute (some stage)).1 = .ok result) (hs : result.success = true)
    (rest : List Text) :
    executeInTurn last (stage :: rest) interpreter =
      executeInTurn result rest (interpreter.execute (some stage)).2 := by
  rw [executeInTurn]
  · generalize interpreter.execute (some stage) = executed at he ⊢
    obtain ⟨reported, next⟩ := executed
    obtain rfl : reported = .ok result := he
    exact if_pos hs
  · exact hne

theorem executeInTurn_failed (hne : stage ≠ [])
    (he : (interpreter.execute (some stage)).1 = .ok result) (hs : result.success = false)
    (rest : List Text) :
    executeInTurn last (stage :: rest) interpreter =
      (.ok result, (interpreter.execute (some stage)).2) := by
  rw [executeInTurn]
  · generalize interpreter.execute (some stage) = executed at he ⊢
    obtain ⟨reported, next⟩ := executed
    obtain rfl : reported = .ok result := he
    exact if_neg (by simp [hs])
  · exact hne

end Turn

theorem executeInTurn_spec (count : Nat) : ∀ (stages : List Text) (index : Nat) (reply : Reply)
    (millis : Nat) (interpreter : Interpreter), (∀ stage ∈ stages, Plain stage) →
    Uninterrupted interpreter.registry interpreter.context →
    ∃ last, (executeInTurn (succeeded reply millis) stages interpreter).1 = .ok last ∧
      (executeInTurn (succeeded reply millis) stages interpreter).2.state =
        ((runStages (runNumbered interpreter.registry interpreter.context count) reply.output
          (stages.zipIdx index)).run interpreter.state).state ∧
      Ends last ((runStages (runNumbered interpreter.registry interpreter.context count)
        reply.output (stages.zipIdx index)).run interpreter.state).result
  | [], _, reply, millis, _, _, _ => ⟨_, rfl, rfl, reply, millis, rfl, rfl⟩
  | stage :: rest, index, reply, millis, interpreter, hplain, hq => by
    have hresult := runNumbered_result interpreter.registry interpreter.context count index stage
      interpreter.state
    have hstate := runNumbered_state interpreter.registry interpreter.context count index stage
      interpreter.state
    rw [List.zipIdx_cons, runStages]
    by_cases hne : stage = []
    · -- the empty stage has no token, in the pipeline as well
      subst hne
      rw [bind_error hresult]
      exact ⟨_, rfl, rfl, by simp, 0, rfl⟩
    · obtain ⟨⟨took, hres⟩, hst⟩ := execute_plain interpreter (hplain stage List.mem_cons_self) hne
      cases hr : ((runStage interpreter.registry interpreter.context stage).run
          interpreter.state).result with
      | error failure =>
        have hf : failure ≠ .fault .interrupted := by
          rintro rfl
          exact runStage_ne_interrupted hq stage interpreter.state hr
        rw [hr, conclude_error hf] at hres
        rw [bind_error (hresult.trans hr), executeInTurn_failed hne hres rfl]
        exact ⟨_, rfl, hst.trans hstate.symm, hf, took, rfl⟩
      | ok reply' =>
        rw [hr] at hres
        have ih := executeInTurn_spec count rest (index + 1) reply' took
          (interpreter.execute (some stage)).2
          (fun s hs => hplain s (List.mem_cons_of_mem _ hs)) (by simpa using hq)
        rw [execute_registry, execute_context, hst, ← hstate] at ih
        rw [bind_ok (hresult.trans hr), executeInTurn_ok hne hres rfl, after_state, after_result]
        exact ih

/-! ### The line -/

/-- What is reported of a line by the last stage that was executed: its output if it succeeded, its
error if not, and plain text in any case. -/
def lineResult (last : Result) (millis : Int) : Result :=
  if last.success then { success := true, output := last.output, millis, shape := .text }
  else { success := false, output := .str [], millis, shape := .text, error := last.error }

/-- **Pipelines are sequential.** A line with a separator leaves the state that its stages leave
when they are executed in turn up to the first failure, and is reported by the last of them. -/
theorem execute_pipeline (interpreter : Interpreter) (line : Text)
    (hq : Uninterrupted interpreter.registry interpreter.context)
    (hp : isPipeline (strip line) = true) :
    ∃ last result,
      (executeInTurn (succeeded (.text []) 0) (stages (strip line)) interpreter).1 = .ok last ∧
      (interpreter.execute (some line)).1 = .ok result ∧
      result = lineResult last result.millis ∧ (last.success = true ↔ last.error = none) ∧
      (interpreter.execute (some line)).2.state =
        (executeInTurn (succeeded (.text []) 0) (stages (strip line)) interpreter).2.state := by
  have ht : trimmed (some line) = strip line := rfl
  have hne : strip line ≠ [] := by
    intro h; rw [h] at hp; revert hp; decide
  obtain ⟨millis, hres⟩ := execute_result interpreter (some line) (by rw [ht]; exact hne)
  have hst := execute_state interpreter (some line) (by rw [ht]; exact hne)
  obtain ⟨last, hlast, hstate, hends⟩ := executeInTurn_spec (stages (strip line)).length
    (stages (strip line)) 0 (.text []) 0 interpreter (fun stage hs => stage_plain hs) hq
  rw [ht, runLine, if_pos hp, runPipeline] at hres hst
  simp only [Reply.text] at hstate hends
  cases hends' : ((runStages (runNumbered interpreter.registry interpreter.context
      (stages (strip line)).length) (.str []) (stages (strip line)).zipIdx).run
        interpreter.state).result with
  | error failure =>
    rw [hends'] at hends
    rw [bind_error hends'] at hres hst
    obtain ⟨hf, took, rfl⟩ := hends
    rw [conclude_error hf] at hres
    exact ⟨_, _, hlast, hres, rfl, by simp [failed], hst.trans hstate.symm⟩
  | ok output =>
    rw [hends'] at hends
    rw [bind_ok hends'] at hres hst
    obtain ⟨reply, took, rfl, rfl⟩ := hends
    exact ⟨_, _, hlast, hres, rfl, by simp [succeeded], hst.trans hstate.symm⟩

/-- The default commands ask to stop only if the store of items does. -/
theorem default_uninterrupted {context : Context}
    (hs : ∀ fault, StoreFails context.items fault → fault ≠ .interrupted) :
    Uninterrupted .default context :=
  uninterrupted_of_keeps (fun _ hc => keeps_of_mem_default (mem_commands_ofList hc)) hs

/-- Simulated devices do not fail. -/
theorem simulated_devices (location : Value) (fault : Fault)
    (h : StoreFails (simulated location).context.items fault) : fault ≠ .interrupted := by
  rcases h with h | h | h | h <;> cases h

theorem simulated_uninterrupted (location : Value) :
    Uninterrupted (simulated location).registry (simulated location).context :=
  default_uninterrupted (simulated_devices location)

/-- A line whose second stage names no command. -/
def abortedLine : Text := "Set-Variable a 1 | Nope | Set-Variable b 2"

/-- What the stages before the failure did stays. -/
theorem execute_pipeline_aborted :
    Uninterrupted (simulated (.str "C:")).registry (simulated (.str "C:")).context ∧
    isPipeline (strip abortedLine) = true ∧
    ∃ last result,
      (executeInTurn (succeeded (.text []) 0) (stages (strip abortedLine))
        (simulated (.str "C:"))).1 = .ok last ∧
      ((simulated (.str "C:")).execute (some abortedLine)).1 = .ok result ∧
      result = lineResult last result.millis ∧ (last.success = true ↔ last.error = none) ∧
      ((simulated (.str "C:")).execute (some abortedLine)).2.state =
        (executeInTurn (succeeded (.text []) 0) (stages (strip abortedLine))
          (simulated (.str "C:"))).2.state :=
  have hq := simulated_uninterrupted (.str "C:")
  have hp : isPipeline (strip abortedLine) = true := by decide
  ⟨hq, hp, execute_pipeline (simulated (.str "C:")) abortedLine hq hp⟩

end CmdletShell.Proofs.Runs.Pipelines
