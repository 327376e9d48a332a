import CmdletShell.Command.Registry
import CmdletShell.Proofs.Runs.Actions

/-!
# Handlers that change little

A handler is *confined* if it either replies, after a change of the state that `P` allows, or fails
for an excused reason and without a change. The two forms of handler, `reading` and `changing`, are
confined if the function that they are made of is (`confined_reading`, `confined_changing`).

Excused are the reasons that the built-in commands have: what they report on purpose, a value in
the state that should be a text, or a breakdown of the store of items.
-/

namespace CmdletShell.Proofs.Builtins.Handlers

open CmdletShell.Proofs.Runs.Actions

/-! ### Why a built-in command fails -/

/-- The values of a state that commands use as texts are texts. -/
structure Textual (state : State) : Prop where
  home : ∃ text, state.home = .str text
  location : ∃ text, state.location = .str text
  homeVariable : ∀ value, state.valueOf? "HOME" = some value → ∃ text, value = .str text
  aliases : ∀ name value, state.aliases.get? name = some value → ∃ text, value = .str text

/-- An operation of the store breaks down with a fault. -/
inductive StoreFails (store : ItemStore) (fault : Fault) : Prop
  | create {path type} : store.create path type = .error fault → StoreFails store fault
  | copy {source destination} : store.copy source destination = .error fault →
      StoreFails store fault
  | move {source destination} : store.move source destination = .error fault →
      StoreFails store fault
  | remove {path} : store.remove path = .error fault → StoreFails store fault

/-- **The reasons for which the built-in commands fail.** -/
inductive Excused (store : ItemStore) (state : State) : Failure → Prop
  | deliberate {failure} : failure.isDeliberate = true → Excused store state failure
  | untyped {kind operation} : ¬ Textual state →
      Excused store state (.fault (.missingOperation kind operation))
  | store {fault} : StoreFails store fault → Excused store state (.fault fault)

/-! ### The two forms of handler -/

/-- The state is not changed. -/
def Unchanged (before after : State) : Prop := after = before

/-- The handler replies after a change that `P` allows, or fails for an excused reason and changes
nothing. -/
def Confined (P : State → State → Prop) (handler : Handler) : Prop :=
  ∀ context args state,
    (∃ reply, ((handler context args).run state).result = .ok (.reply reply) ∧
      P state ((handler context args).run state).state) ∨
    (∃ failure, ((handler context args).run state).result = .error failure ∧
      Excused context.items state failure ∧ ((handler context args).run state).state = state)

variable {P : State → State → Prop}

theorem reading_run (f : Context → State → List Text → Except Failure Reply) (context : Context)
    (args : List Text) (state : State) :
    (Handler.reading f context args).run state =
      ⟨(f context state args).map Answer.reply, state, []⟩ := by
  have h : (Handler.reading f context args).run state =
      ((Action.lift (f context state args) >>= fun reply => pure (Answer.reply reply)).run
        state).after [] := rfl
  rw [h, after_nil]
  cases hf : f context state args with
  | error failure => rfl
  | ok reply => rfl

theorem confined_reading {f : Context → State → List Text → Except Failure Reply}
    (hf : ∀ {context state args failure}, f context state args = .error failure →
      Excused context.items state failure) : Confined Unchanged (Handler.reading f) := by
  intro context args state
  rw [reading_run]
  cases h : f context state args with
  | error failure => exact Or.inr ⟨failure, rfl, hf h, rfl⟩
  | ok reply => exact Or.inl ⟨reply, rfl, rfl⟩

theorem changing_run (f : Context → State → List Text → Except Failure (Reply × State))
    (context : Context) (args : List Text) (state : State) :
    (Handler.changing f context args).run state =
      match f context state args with
      | .ok (reply, after) => ⟨.ok (.reply reply), after, []⟩
      | .error failure => ⟨.error failure, state, []⟩ := by
  have h : (Handler.changing f context args).run state =
      ((Action.lift (f context state args) >>= fun result => do
        Action.change fun _ => result.2
        pure (Answer.reply result.1)).run state).after [] := rfl
  rw [h, after_nil]
  cases hf : f context state args with
  | error failure => rfl
  | ok result => rfl

theorem confined_changing {f : Context → State → List Text → Except Failure (Reply × State)}
    (hok : ∀ {context state args reply after}, f context state args = .ok (reply, after) →
      P state after)
    (herr : ∀ {context state args failure}, f context state args = .error failure →
      Excused context.items state failure) : Confined P (Handler.changing f) := by
  intro context args state
  rw [changing_run]
  cases h : f context state args with
  | error failure => exact Or.inr ⟨failure, rfl, herr h, rfl⟩
  | ok result => exact Or.inl ⟨result.1, rfl, hok h⟩

end CmdletShell.Proofs.Builtins.Handlers
