import CmdletShell.Interpreter.Basic

/-!
# What a stage does

What an action comes to is made of what its parts come to (`bind_ok`, `bind_error`). A stage ends
in one of four ways, listed by `StageRun`: it has no token, the alias of its word is no text, no
command has the name, or the handler of a command runs and its answer is settled. `runStage_run`
says so of every stage; later statements about stages go by its cases.
-/

namespace CmdletShell.Proofs.Runs.Actions

open CmdletShell.Interpreter

section Equations
variable {α β : Type} {action : Action α} {next : α → Action β} {state : State}

@[simp] theorem after_result (entries : Journal) (outcome : Outcome α) :
    (outcome.after entries).result = outcome.result := rfl

@[simp] theorem after_state (entries : Journal) (outcome : Outcome α) :
    (outcome.after entries).state = outcome.state := rfl

@[simp] theorem after_nil (outcome : Outcome α) : outcome.after [] = outcome := rfl

theorem pure_apply (value : α) (state : State) :
    (pure value : Action α).run state = ⟨.ok value, state, []⟩ := rfl

theorem throw_apply (failure : Failure) (state : State) :
    (throw failure : Action α).run state = ⟨.error failure, state, []⟩ := rfl

theorem bind_apply (action : Action α) (next : α → Action β) (state : State) :
    (action >>= next).run state =
      match (action.run state).result with
      | .ok value => ((next value).run (action.run state).state).after (action.run state).entries
      | .error failure =>
        ⟨.error failure, (action.run state).state, (action.run state).entries⟩ := by
  dsimp only [bind]
  rcases action.run state with ⟨_ | _, after, entries⟩ <;> rfl

theorem bind_ok {value : α} (h : (action.run state).result = .ok value) :
    (action >>= next).run state =
      ((next value).run (action.run state).state).after (action.run state).entries := by
  rw [bind_apply, h]

theorem bind_error {failure : Failure} (h : (action.run state).result = .error failure) :
    (action >>= next).run state =
      ⟨.error failure, (action.run state).state, (action.run state).entries⟩ := by
  rw [bind_apply, h]

end Equations

/-! ### Dispatch -/

/-- The context in which the commands of a registry run. -/
def surroundings (registry : Registry) (context : Context) : Context :=
  { context with describe := registry.describe }

theorem surroundings_items (registry : Registry) (context : Context) :
    (surroundings registry context).items = context.items := rfl

/-- What a handler's answer comes to: an answer that is no reply is a failure. -/
def settle (name : Text) (outcome : Outcome Answer) : Outcome Reply :=
  match outcome.result with
  | .ok (.reply reply) => ⟨.ok reply, outcome.state, outcome.entries⟩
  | .ok (.other value) => ⟨.error (.wrongAnswer name value.kind), outcome.state, outcome.entries⟩
  | .error failure => ⟨.error failure, outcome.state, outcome.entries⟩

/-- The reply of an answer. -/
def replyOf (name : Text) : Answer → Action Reply
  | .reply reply => pure reply
  | .other value => throw (.wrongAnswer name value.kind)

theorem bind_replyOf (name : Text) (action : Action Answer) (state : State) :
    (action >>= replyOf name).run state = settle name (action.run state) := by
  unfold settle
  cases hr : (action.run state).result with
  | error failure => exact bind_error hr
  | ok answer =>
    rw [bind_ok hr]
    cases answer <;> simp [replyOf, pure_apply, throw_apply, Outcome.after]

@[simp] theorem settle_state (name : Text) (outcome : Outcome Answer) :
    (settle name outcome).state = outcome.state := by
  unfold settle; split <;> rfl

@[simp] theorem settle_entries (name : Text) (outcome : Outcome Answer) :
    (settle name outcome).entries = outcome.entries := by
  unfold settle; split <;> rfl

section Dispatch
variable {registry : Registry} {context : Context} {target : Value} {args : List Text}
  {typed : Text} {state : State}

theorem dispatch_error {fault : Fault} (h : registry.lookup target = .error fault) :
    (registry.dispatch context target args typed).run state =
      ⟨.error (.fault fault), state, []⟩ := by
  rw [Registry.dispatch, h]; rfl

theorem dispatch_none (h : registry.lookup target = .ok none) :
    (registry.dispatch context target args typed).run state =
      ⟨.error (.notRecognized typed), state, []⟩ := by
  rw [Registry.dispatch, h]; rfl

theorem dispatch_some {command : Command} (h : registry.lookup target = .ok (some command)) :
    (registry.dispatch context target args typed).run state =
      settle command.description.name
        ((command.handler (surroundings registry context) args).run state) := by
  rw [Registry.dispatch, h]
  exact bind_replyOf command.description.name
    (command.handler (surroundings registry context) args) state

end Dispatch

/-! ### Stages -/

/-- **The ways a stage ends.** -/
inductive StageRun (registry : Registry) (context : Context) (line : Text) (state : State) :
    Outcome Reply → Prop
  /-- The stage has no token. -/
  | blank : Line.tokenize line = [] →
      StageRun registry context line state ⟨.error (.notRecognized line), state, []⟩
  /-- The alias of the word is no text. -/
  | untyped {typed args fault} : Line.tokenize line = typed :: args →
      registry.lookup (state.resolveAlias typed) = .error fault →
      StageRun registry context line state ⟨.error (.fault fault), state, []⟩
  /-- No command has the name. -/
  | unknown {typed args} : Line.tokenize line = typed :: args →
      registry.lookup (state.resolveAlias typed) = .ok none →
      StageRun registry context line state ⟨.error (.notRecognized typed), state, []⟩
  /-- The handler of a command runs. -/
  | ran {typed args command} : Line.tokenize line = typed :: args →
      registry.lookup (state.resolveAlias typed) = .ok (some command) →
      StageRun registry context line state
        (settle command.description.name
          ((command.handler (surroundings registry context) args).run state))

/-- A stage with a token dispatches its first one. -/
theorem runStage_of_tokenize {registry : Registry} {context : Context} {line typed : Text}
    {args : List Text} {state : State} (h : Line.tokenize line = typed :: args) :
    (runStage registry context line).run state =
      (registry.dispatch context (state.resolveAlias typed) args typed).run state := by
  rw [runStage, h]; rfl

theorem runStage_run (registry : Registry) (context : Context) (line : Text) (state : State) :
    StageRun registry context line state ((runStage registry context line).run state) := by
  cases ht : Line.tokenize line with
  | nil =>
    have h : (runStage registry context line).run state =
        ⟨.error (.notRecognized line), state, []⟩ := by
      rw [runStage, ht]; rfl
    rw [h]
    exact .blank ht
  | cons typed args =>
    rw [runStage_of_tokenize ht]
    cases hl : registry.lookup (state.resolveAlias typed) with
    | error fault => rw [dispatch_error hl]; exact .untyped ht hl
    | ok found =>
      cases found with
      | none => rw [dispatch_none hl]; exact .unknown ht hl
      | some command => rw [dispatch_some hl]; exact .ran ht hl

/-- A stage of a pipeline gives what it gives as a command of its own. -/
theorem runNumbered_result (registry : Registry) (context : Context) (count index : Nat)
    (stage : Text) (state : State) :
    ((runNumbered registry context count index stage).run state).result =
      ((runStage registry context stage).run state).result := rfl

/-- A stage of a pipeline leaves the state that it leaves as a command of its own. -/
theorem runNumbered_state (registry : Registry) (context : Context) (count index : Nat)
    (stage : Text) (state : State) :
    ((runNumbered registry context count index stage).run state).state =
      ((runStage registry context stage).run state).state := rfl

end CmdletShell.Proofs.Runs.Actions
