import CmdletShell.Proofs.Lines.Stages
import CmdletShell.Proofs.Runs.Actions

/-!
# Executing a line

`execute` trims its line. What is left, unless it is empty, runs as an action on the state, and what
that comes to is reported (`conclude`): the state after `execute` is the one the action leaves
(`execute_state`), and only an interrupt gets through (`execute_result`). Commands and surroundings
never change.

What a line does to the state its stages do, which run in turn until one fails (`InTurn`,
`execute_inTurn`). `executeAll` executes lines one after another. What every stage does to the
state, every run does: `executeAll_rel` for a reflexive and transitive relation, `executeAll_keeps`
for an invariant.
-/

namespace CmdletShell.Proofs.Runs.Execution

open CmdletShell.Interpreter CmdletShell.Line CmdletShell.Text
open CmdletShell.Proofs.Lines.Strip CmdletShell.Proofs.Lines.Stages CmdletShell.Proofs.Runs.Actions

/-- The default commands and simulated devices in a state at a location, which is the home too;
there are no variables, aliases and modules. -/
def simulated (location : Value) : Interpreter where
  context := { clock := default, random := fun least _ => least }
  session := { state := ⟨location, location, [], [], []⟩ }

/-- A fresh session of the default commands and simulated devices at a home. -/
def fresh (home : Text) : Interpreter where
  context := (simulated (.str home)).context
  session := { state := (State.create (.str home) .null).toOption.getD default }

theorem fresh_registry (home : Text) : (fresh home).registry = .default := rfl

theorem create_fresh (home : Text) : State.create (.str home) .null = .ok (fresh home).state := rfl

/-- The line that is run: what `execute` gets, without the white space around it. -/
def trimmed (line : Option Text) : Text := strip (line.getD [])

/-- What the outcome of a line is reported as. -/
def conclude (millis : Nat) : Except Failure Reply → Except Fault Result
  | .ok reply => .ok (succeeded reply millis)
  | .error (.fault .interrupted) => .error .interrupted
  | .error failure => .ok (failed failure millis)

theorem conclude_error {failure : Failure} (h : failure ≠ .fault .interrupted) (millis : Nat) :
    conclude millis (.error failure) = .ok (failed failure millis) := by
  unfold conclude
  split
  · next heq => cases heq
  · next heq => cases heq; exact absurd rfl h
  · next heq => cases heq; rfl

/-- A failure is never reported as a success. -/
theorem success_of_conclude_error {failure : Failure} {millis : Nat} {result : Result}
    (h : conclude millis (.error failure) = .ok result) : result.success = false := by
  by_cases hf : failure = .fault .interrupted
  · rw [hf] at h; cases h
  · rw [conclude_error hf] at h; cases h; rfl

/-- The entries that tell how a line ended, last in what it notes. -/
def closing (line : Text) (millis : Nat) : Except Failure Reply → Journal
  | .ok _ => [successEntry line millis]
  | .error (.fault .interrupted) => []
  | .error failure => failureEntries line failure

theorem closing_error {failure : Failure} (h : failure ≠ .fault .interrupted) (line : Text)
    (millis : Nat) : closing line millis (.error failure) = failureEntries line failure := by
  unfold closing
  split
  · next heq => cases heq
  · next heq => cases heq; exact absurd rfl h
  · next heq => cases heq; rfl

variable (interpreter : Interpreter)

/-- What a line comes to that takes some time, from the outcome of its commands. -/
structure Concludes (line : Text) (millis : Nat) (outcome : Outcome Reply)
    (executed : Except Fault Result × Interpreter) : Prop where
  result : executed.1 = conclude millis outcome.result
  state : executed.2.state = outcome.state
  registry : executed.2.registry = interpreter.registry
  context : executed.2.context = interpreter.context
  journal : executed.2.session.journal =
    interpreter.session.journal ++ outcome.entries ++ closing line millis outcome.result

theorem executeLine_concludes (line : Text) (started : Number) :
    Concludes interpreter line (elapsedMillis started interpreter.timer.read.1)
      ((runLine interpreter.registry interpreter.context line).run interpreter.state)
      (interpreter.executeLine line started) := by
  have ho : ∀ action : Action Reply, action.outcome interpreter.session =
      ((action.run interpreter.state).result,
        ⟨(action.run interpreter.state).state,
          interpreter.session.journal ++ (action.run interpreter.state).entries⟩) := fun _ => rfl
  simp only [executeLine, ho]
  generalize (runLine interpreter.registry interpreter.context line).run interpreter.state = outcome
  rcases outcome with ⟨result, state, entries⟩
  dsimp only
  split
  · next heq =>
    obtain ⟨rfl, rfl⟩ := Prod.mk.inj heq
    exact ⟨rfl, rfl, rfl, rfl, (List.append_nil _).symm⟩
  · next hne heq =>
    obtain ⟨rfl, rfl⟩ := Prod.mk.inj heq
    cases result with
    | ok reply => exact ⟨rfl, rfl, rfl, rfl, rfl⟩
    | error failure =>
      have hf : failure ≠ .fault .interrupted := by rintro rfl; exact hne rfl
      refine ⟨(conclude_error hf _).symm, rfl, rfl, rfl, ?_⟩
      rw [closing_error hf]
      rfl

variable (line : Option Text)

theorem execute_of_blank (h : trimmed line = []) :
    ∃ millis timer, interpreter.execute line =
      (.ok (succeeded (.text []) millis), { interpreter with timer }) := by
  unfold trimmed at h
  refine ⟨elapsedMillis interpreter.timer.read.1 interpreter.timer.read.2.read.1,
    interpreter.timer.read.2.read.2, ?_⟩
  simp only [execute, h, List.isEmpty_nil, if_true]

theorem execute_of_ne_nil (h : trimmed line ≠ []) : interpreter.execute line =
    ({ interpreter with timer := interpreter.timer.read.2 } : Interpreter).executeLine
      (trimmed line) interpreter.timer.read.1 := by
  have he : (trimmed line).isEmpty = false := by simpa using h
  unfold trimmed at he
  simp only [execute, he, Bool.false_eq_true, if_false]
  rfl

/-- The time between the next two readings of the timer. -/
def spent : Nat := elapsedMillis interpreter.timer.read.1 interpreter.timer.read.2.read.1

theorem execute_state_of_blank (h : trimmed line = []) :
    (interpreter.execute line).2.state = interpreter.state := by
  obtain ⟨millis, timer, he⟩ := execute_of_blank interpreter line h
  rw [he]; rfl

/-- **What a line that is not blank is reported as.** -/
theorem execute_timed (h : trimmed line ≠ []) :
    (interpreter.execute line).1 = conclude (spent interpreter)
      ((runLine interpreter.registry interpreter.context (trimmed line)).run
        interpreter.state).result := by
  rw [execute_of_ne_nil interpreter line h]
  exact (executeLine_concludes _ (trimmed line) _).result

theorem execute_result (h : trimmed line ≠ []) :
    ∃ millis, (interpreter.execute line).1 = conclude millis
      ((runLine interpreter.registry interpreter.context (trimmed line)).run
        interpreter.state).result :=
  ⟨_, execute_timed interpreter line h⟩

/-- **The state that a line leaves.** -/
theorem execute_state (h : trimmed line ≠ []) :
    (interpreter.execute line).2.state =
      ((runLine interpreter.registry interpreter.context (trimmed line)).run
        interpreter.state).state := by
  rw [execute_of_ne_nil interpreter line h]
  exact (executeLine_concludes _ (trimmed line) _).state

theorem execute_journal_of_blank (h : trimmed line = []) :
    (interpreter.execute line).2.session.journal = interpreter.session.journal := by
  obtain ⟨millis, timer, he⟩ := execute_of_blank interpreter line h
  rw [he]

/-- **What a line notes**: what its stages note, and how it ended. -/
theorem execute_journal (h : trimmed line ≠ []) :
    (interpreter.execute line).2.session.journal = interpreter.session.journal ++
      ((runLine interpreter.registry interpreter.context (trimmed line)).run
        interpreter.state).entries ++
      closing (trimmed line) (spent interpreter)
        ((runLine interpreter.registry interpreter.context (trimmed line)).run
          interpreter.state).result := by
  rw [execute_of_ne_nil interpreter line h]
  exact (executeLine_concludes _ (trimmed line) _).journal

@[simp] theorem execute_registry :
    (interpreter.execute line).2.registry = interpreter.registry := by
  by_cases h : trimmed line = []
  · obtain ⟨millis, timer, he⟩ := execute_of_blank interpreter line h
    rw [he]
  · rw [execute_of_ne_nil interpreter line h]
    exact (executeLine_concludes _ (trimmed line) _).registry

@[simp] theorem execute_context : (interpreter.execute line).2.context = interpreter.context := by
  by_cases h : trimmed line = []
  · obtain ⟨millis, timer, he⟩ := execute_of_blank interpreter line h
    rw [he]
  · rw [execute_of_ne_nil interpreter line h]
    exact (executeLine_concludes _ (trimmed line) _).context

/-- **A line without a separator is one stage.** -/
theorem execute_single (h : trimmed line ≠ []) (hs : isPipeline (trimmed line) = false) :
    (∃ millis, (interpreter.execute line).1 = conclude millis
      ((runStage interpreter.registry interpreter.context (trimmed line)).run
        interpreter.state).result) ∧
    (interpreter.execute line).2.state =
      ((runStage interpreter.registry interpreter.context (trimmed line)).run
        interpreter.state).state := by
  have hl : runLine interpreter.registry interpreter.context (trimmed line) =
      runStage interpreter.registry interpreter.context (trimmed line) := by
    rw [runLine, hs]; rfl
  rw [← hl]
  exact ⟨execute_result interpreter line h, execute_state interpreter line h⟩

/-! ### The first stage -/

section FirstStage
variable {registry : Registry} {context : Context} {line other stage stage' : Text}
  {rest : List Text} {state : State}

/-- The outcomes have the same result and the same state. -/
structure EndAlike {α : Type} (first second : Outcome α) : Prop where
  result : first.result = second.result
  state : first.state = second.state

theorem bind_endAlike {α β : Type} {first second : Action α} {next : α → Action β}
    (h : EndAlike (first.run state) (second.run state)) :
    EndAlike ((first >>= next).run state) ((second >>= next).run state) := by
  cases hr : (first.run state).result with
  | error failure =>
    rw [bind_error hr, bind_error (h.result.symm.trans hr)]
    exact ⟨rfl, h.state⟩
  | ok value =>
    rw [bind_ok hr, bind_ok (h.result.symm.trans hr), h.state]
    exact ⟨rfl, rfl⟩

theorem runPipeline_of_stages (h : stages line = stage :: rest) (run : Nat → Text → Action Reply) :
    runPipeline run line =
      (run 0 stage >>= fun reply => runStages run reply.output (rest.zipIdx 1)) >>=
        fun output => pure { output } := by
  rw [runPipeline, h, List.zipIdx_cons, runStages]

/-- Lines that differ in the first stage only end alike if these stages do. -/
theorem runLine_endAlike (hl : strip line = line) (ho : strip other = other)
    (hs : stages line = stage :: rest) (hs' : stages other = stage' :: rest)
    (h : EndAlike ((runStage registry context stage).run state)
      ((runStage registry context stage').run state)) :
    EndAlike ((runLine registry context line).run state)
      ((runLine registry context other).run state) := by
  have hlen : (stages line).length = (stages other).length := by
    rw [hs, hs', List.length_cons, List.length_cons]
  rw [runLine, runLine, isPipeline_of_stages hs, isPipeline_of_stages hs', hlen]
  cases rest with
  | nil =>
    rw [eq_of_stages_eq_singleton hs hl, eq_of_stages_eq_singleton hs' ho] at h
    exact h
  | cons next rest =>
    rw [List.isEmpty_cons, Bool.not_false, if_pos rfl, if_pos rfl, runPipeline_of_stages hs,
      runPipeline_of_stages hs']
    exact bind_endAlike (bind_endAlike ⟨h.result, h.state⟩)

/-- A line whose first stage fails fails with it. -/
theorem runLine_error {failure : Failure} (hl : strip line = line)
    (hs : stages line = stage :: rest)
    (h : ((runStage registry context stage).run state).result = .error failure) :
    ((runLine registry context line).run state).result = .error failure ∧
    ((runLine registry context line).run state).state =
      ((runStage registry context stage).run state).state := by
  rw [runLine, isPipeline_of_stages hs]
  cases rest with
  | nil =>
    rw [eq_of_stages_eq_singleton hs hl] at h ⊢
    exact ⟨h, rfl⟩
  | cons next rest =>
    have hfirst : ((runNumbered registry context (stages line).length 0 stage).run state).result =
        .error failure := h
    rw [List.isEmpty_cons, Bool.not_false, if_pos rfl, runPipeline_of_stages hs,
      bind_error (by rw [bind_error hfirst]), bind_error hfirst]
    exact ⟨rfl, rfl⟩

end FirstStage

/-! ### Stages in turn -/

section InTurn

/-- **Stages run in turn**, each in the state that the one before it left, until one fails. -/
inductive InTurn (registry : Registry) (context : Context) : State → List Text → State → Prop
  /-- No stage is left. -/
  | done {state} : InTurn registry context state [] state
  /-- A stage fails, so those after it do not run. -/
  | failed {state stage rest failure} :
      ((runStage registry context stage).run state).result = .error failure →
      InTurn registry context state (stage :: rest)
        ((runStage registry context stage).run state).state
  /-- A stage succeeds. -/
  | passed {state stage rest after reply} :
      ((runStage registry context stage).run state).result = .ok reply →
      InTurn registry context ((runStage registry context stage).run state).state rest after →
      InTurn registry context state (stage :: rest) after

variable {registry : Registry} {context : Context}

theorem inTurn_single (registry : Registry) (context : Context) (state : State) (stage : Text) :
    InTurn registry context state [stage] ((runStage registry context stage).run state).state := by
  cases hr : ((runStage registry context stage).run state).result with
  | error failure => exact .failed hr
  | ok reply => exact .passed hr .done

theorem inTurn_runStages (count : Nat) : ∀ (stages : List Text) (index : Nat) (output : Value)
    (state : State), InTurn registry context state stages
      ((runStages (runNumbered registry context count) output
        (stages.zipIdx index)).run state).state
  | [], _, _, _ => .done
  | stage :: rest, index, output, state => by
    have hresult := runNumbered_result registry context count index stage state
    have hstate := runNumbered_state registry context count index stage state
    rw [List.zipIdx_cons, runStages]
    cases hr : ((runStage registry context stage).run state).result with
    | error failure =>
      rw [bind_error (hresult.trans hr), hstate]
      exact .failed hr
    | ok reply =>
      rw [bind_ok (hresult.trans hr), after_state, hstate]
      exact .passed hr (inTurn_runStages count rest (index + 1) reply.output _)

/-- A trimmed line runs its stages in turn. -/
theorem inTurn_runLine {line : Text} (hl : strip line = line) (state : State) :
    InTurn registry context state (stages line)
      ((runLine registry context line).run state).state := by
  unfold runLine
  split
  · have h : InTurn registry context state (stages line) _ :=
      inTurn_runStages (stages line).length (stages line) 0 (.str []) state
    unfold runPipeline
    cases hr : ((runStages (runNumbered registry context (stages line).length) (.str [])
        (stages line).zipIdx).run state).result with
    | error failure => rw [bind_error hr]; exact h
    | ok output => rw [bind_ok hr]; exact h
  · next hp =>
    rw [stages_of_single (by simpa using hp), hl]
    exact inTurn_single registry context state line

/-- **Executing a line runs its stages in turn.** A blank line has one stage, which fails. -/
theorem execute_inTurn (interpreter : Interpreter) (line : Option Text) :
    InTurn interpreter.registry interpreter.context interpreter.state (stages (trimmed line))
      (interpreter.execute line).2.state := by
  by_cases h : trimmed line = []
  · rw [execute_state_of_blank interpreter line h, h]
    exact inTurn_single interpreter.registry interpreter.context interpreter.state []
  · rw [execute_state interpreter line h]
    exact inTurn_runLine (strip_strip _) _

/-- What every stage of a line does to the state, the line does. -/
theorem InTurn.rel {R : State → State → Prop} {state after : State} {stages : List Text}
    (h : InTurn registry context state stages after) (refl : ∀ s, R s s)
    (trans : ∀ {s t u}, R s t → R t u → R s u)
    (stage : ∀ line ∈ stages, ∀ s, R s ((runStage registry context line).run s).state) :
    R state after := by
  induction h with
  | done => exact refl _
  | failed => exact stage _ List.mem_cons_self _
  | passed _ _ ih =>
    exact trans (stage _ List.mem_cons_self _) (ih fun line hl => stage line (.tail _ hl))

/-- What every stage of a line keeps, the line keeps. -/
theorem InTurn.keeps {I : State → Prop} {state after : State} {stages : List Text}
    (h : InTurn registry context state stages after)
    (stage : ∀ line ∈ stages, ∀ s, I s → I ((runStage registry context line).run s).state)
    (hs : I state) : I after :=
  h.rel (R := fun s t => I s → I t) (fun _ hs => hs) (fun h h' hs => h' (h hs)) stage hs

end InTurn

/-! ### Runs -/

section Runs
variable {R : State → State → Prop} {interpreter}

theorem execute_rel (refl : ∀ s, R s s) (trans : ∀ {s t u}, R s t → R t u → R s u)
    (stage : ∀ line s, R s ((runStage interpreter.registry interpreter.context line).run s).state)
    (line : Option Text) : R interpreter.state (interpreter.execute line).2.state :=
  (execute_inTurn interpreter line).rel refl trans fun stage' _ => stage stage'

/-- Executes lines one after another. -/
def executeAll (interpreter : Interpreter) (lines : List (Option Text)) : Interpreter :=
  lines.foldl (fun interpreter line => (interpreter.execute line).2) interpreter

theorem executeAll_registry : ∀ (lines : List (Option Text)) (interpreter : Interpreter),
    (executeAll interpreter lines).registry = interpreter.registry
  | [], _ => rfl
  | line :: lines, interpreter =>
    (executeAll_registry lines _).trans (execute_registry interpreter line)

theorem executeAll_context : ∀ (lines : List (Option Text)) (interpreter : Interpreter),
    (executeAll interpreter lines).context = interpreter.context
  | [], _ => rfl
  | line :: lines, interpreter =>
    (executeAll_context lines _).trans (execute_context interpreter line)

theorem executeAll_append (interpreter : Interpreter) (lines more : List (Option Text)) :
    executeAll interpreter (lines ++ more) = executeAll (executeAll interpreter lines) more :=
  List.foldl_append

/-- The state that a line leaves depends on commands, surroundings and state only. -/
theorem execute_state_congr {other : Interpreter} (hr : other.registry = interpreter.registry)
    (hc : other.context = interpreter.context) (hs : other.state = interpreter.state)
    (line : Option Text) : (other.execute line).2.state = (interpreter.execute line).2.state := by
  by_cases h : trimmed line = []
  · rw [execute_state_of_blank _ line h, execute_state_of_blank _ line h, hs]
  · rw [execute_state _ line h, execute_state _ line h, hr, hc, hs]

theorem executeAll_state_congr : ∀ (lines : List (Option Text)) {interpreter other : Interpreter},
    other.registry = interpreter.registry → other.context = interpreter.context →
    other.state = interpreter.state →
    (executeAll other lines).state = (executeAll interpreter lines).state
  | [], _, _, _, _, hs => hs
  | line :: lines, interpreter, other, hr, hc, hs =>
    executeAll_state_congr lines (by simpa using hr) (by simpa using hc)
      (execute_state_congr hr hc hs line)

/-- **What every stage does to the state, every run does.** -/
theorem executeAll_rel (refl : ∀ s, R s s) (trans : ∀ {s t u}, R s t → R t u → R s u) :
    ∀ (lines : List (Option Text)) {interpreter : Interpreter},
      (∀ line s, R s ((runStage interpreter.registry interpreter.context line).run s).state) →
      R interpreter.state (executeAll interpreter lines).state
  | [], interpreter, _ => refl interpreter.state
  | line :: lines, interpreter, stage =>
    trans (execute_rel refl trans stage line)
      (executeAll_rel refl trans lines (by simpa using stage))

/-- **What every stage keeps, every run keeps.** -/
theorem executeAll_keeps {I : State → Prop} (lines : List (Option Text))
    (stage : ∀ line s, I s →
      I ((runStage interpreter.registry interpreter.context line).run s).state)
    (hs : I interpreter.state) : I (executeAll interpreter lines).state :=
  executeAll_rel (R := fun s t => I s → I t) (fun _ hs => hs) (fun h h' hs => h' (h hs)) lines
    stage hs

end Runs

end CmdletShell.Proofs.Runs.Execution
