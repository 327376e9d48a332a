import CmdletShell.Proofs.Builtins.Default
import CmdletShell.Proofs.Runs.Frame

/-!
# The commands that write

What a stage comes to that calls `Set-Location` or `Set-Variable` of the default registry
(`runStage_setLocation`, `runStage_setVariable`). Any other stage leaves the location as it was, and
the variables too (`runStage_location_eq`, `runStage_bindings_eq`).
-/

namespace CmdletShell.Proofs.Runs.Writers

open CmdletShell.Interpreter CmdletShell.Line CmdletShell.Cmdlet CmdletShell.Argument
open CmdletShell.Proofs.Builtins.Handlers CmdletShell.Proofs.Builtins.Changes
open CmdletShell.Proofs.Builtins.Default
open CmdletShell.Proofs.Runs.Actions CmdletShell.Proofs.Runs.Frame

variable {context : Context} {state : State} {line key : Text} {command : Command}

theorem calledKey_eq_some (h : calledKey state line = some key) :
    ∃ word args name, tokenize line = word :: args ∧ state.resolveAlias word = .str name ∧
      Text.lower name = key := by
  unfold calledKey at h
  split at h
  · cases h
  · next word args ht =>
    split at h
    · next name hr => exact ⟨word, args, name, ht, hr, Option.some.inj h⟩
    · cases h

/-- The key called depends on the aliases only. -/
theorem calledKey_congr {other : State} (h : other.aliases = state.aliases) (line : Text) :
    calledKey other line = calledKey state line := by
  unfold calledKey State.resolveAlias
  rw [h]

/-- What a word calls does not depend on what stands behind it. -/
theorem calledKey_of_word {word : Text} {args : List Text} (hw : tokenize word = [word])
    (h : calledKey state word = some key) (ht : tokenize line = word :: args) :
    calledKey state line = some key := by
  obtain ⟨first, others, name, hfirst, hname, hkey⟩ := calledKey_eq_some h
  obtain ⟨rfl, -⟩ := List.cons.inj (hw.symm.trans hfirst)
  rw [calledKey_of_tokenize ht hname, hkey]

/-- A stage that calls a built-in command runs its handler on the other tokens. -/
theorem runStage_builtin (hc : command ∈ builtins.flatMap (·.2))
    (hkey : command.description.key = key) (h : calledKey state line = some key) :
    (runStage .default context line).run state = settle command.complete.description.name
      ((command.handler (surroundings .default context) (tokenize line).tail).run state) := by
  obtain ⟨word, args, name, ht, hr, hk⟩ := calledKey_eq_some h
  rw [runStage_of_tokenize ht, hr, dispatch_some (lookup_default hc (hk.trans hkey.symm)), ht]
  rfl

theorem runStage_setLocation (h : calledKey state line = some ("set-location" : Text)) :
    (runStage .default context line).run state =
      match Location.follow state.location (locationTarget state (tokenize line).tail)
        state.home with
      | .ok location => ⟨.ok (Reply.text []), state.moveTo location, []⟩
      | .error fault => ⟨.error (.fault fault), state, []⟩ := by
  have hc : setLocation ∈ builtins.flatMap (·.2) := by simp [builtins, locationCommands]
  have hk : setLocation.description.key = "set-location" := by decide
  rw [runStage_builtin hc hk h]
  unfold setLocation
  rw [changing_run]
  cases Location.follow state.location (locationTarget state (tokenize line).tail) state.home <;>
    rfl

theorem runStage_setVariable (h : calledKey state line = some ("set-variable" : Text)) :
    (runStage .default context line).run state =
      match assignment (tokenize line).tail with
      | .ok (name, value) => ⟨.ok (Reply.text []), state.assign name (.str value), []⟩
      | .error failure => ⟨.error failure, state, []⟩ := by
  have hc : setVariable ∈ builtins.flatMap (·.2) := by simp [builtins, sessionCommands]
  have hk : setVariable.description.key = "set-variable" := by decide
  rw [runStage_builtin hc hk h]
  unfold setVariable
  rw [changing_run]
  cases assignment (tokenize line).tail <;> rfl

/-! ### Any other command -/

/-- Only `Set-Location` changes the location. -/
theorem runStage_location_eq (h : calledKey state line ≠ some ("set-location" : Text)) :
    ((runStage .default context line).run state).state.location = state.location := by
  rcases @runStage_keeping .default context state default_keeping line with
    ⟨key, reply, hkey, -, hallowed⟩ | ⟨failure, -, -, hsame⟩
  · have hne : key ≠ "set-location" := by
      rintro rfl
      exact h hkey
    unfold Allowed at hallowed
    rw [if_neg hne] at hallowed
    split_ifs at hallowed
    · exact hallowed.location
    · exact hallowed.location
    · rw [hallowed]
  · rw [hsame]

/-- Only `Set-Location` and `Set-Variable` change variables. -/
theorem runStage_bindings_eq (h : calledKey state line ≠ some ("set-location" : Text))
    (h' : calledKey state line ≠ some ("set-variable" : Text)) :
    ((runStage .default context line).run state).state.bindings = state.bindings := by
  rcases @runStage_keeping .default context state default_keeping line with
    ⟨key, reply, hkey, -, hallowed⟩ | ⟨failure, -, -, hsame⟩
  · have hne : key ≠ "set-location" := by
      rintro rfl
      exact h hkey
    have hne' : key ≠ "set-variable" := by
      rintro rfl
      exact h' hkey
    unfold Allowed at hallowed
    rw [if_neg hne, if_neg hne'] at hallowed
    split_ifs at hallowed
    · exact hallowed.bindings
    · rw [hallowed]
  · rw [hsame]

end CmdletShell.Proofs.Runs.Writers
