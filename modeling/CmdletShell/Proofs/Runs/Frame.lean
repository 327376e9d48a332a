import CmdletShell.Proofs.Builtins.Changes
import CmdletShell.Proofs.Runs.Execution

/-!
# What a line changes

With a registry that is `Keeping`, as the default one is, a stage either changes what the command it
calls may change (`Allowed`), or fails and changes nothing (`runStage_keeping`). So a single command
that fails leaves the state as it was (`execute_atomic`), and one that succeeds changes what its
command may change (`execute_frame`). Over any run, home and aliases stay, and modules and variables
are only added (`Grown`).
-/

namespace CmdletShell.Proofs.Runs.Frame

open CmdletShell.Interpreter CmdletShell.Line CmdletShell.Text
open CmdletShell.Proofs.Lines.Strip CmdletShell.Proofs.Lines.Stages
open CmdletShell.Proofs.Builtins.Fields CmdletShell.Proofs.Builtins.Handlers
open CmdletShell.Proofs.Builtins.Changes
open CmdletShell.Proofs.Runs.Actions CmdletShell.Proofs.Runs.Execution

/-- The key of the command that a line calls: the lower case of its word, or of the target of the
word's alias. A line without a token and an alias whose target is no text call none. -/
def calledKey (state : State) (line : Text) : Option Text :=
  match tokenize line with
  | [] => none
  | word :: _ =>
    match state.resolveAlias word with
    | .str name => some (lower name)
    | _ => none

theorem calledKey_of_tokenize {state : State} {line word : Text} {args : List Text} {name : Text}
    (ht : tokenize line = word :: args) (hr : state.resolveAlias word = .str name) :
    calledKey state line = some (lower name) := by
  rw [calledKey, ht]
  dsimp only
  rw [hr]

variable {registry : Registry} {context : Context} {state : State}

/-- In a textual state no alias stops a look-up. -/
theorem excused_of_lookup_error {store : ItemStore} {typed : Text} {fault : Fault}
    (h : registry.lookup (state.resolveAlias typed) = .error fault) :
    Excused store state (.fault fault) := by
  cases ha : state.resolveAlias typed <;> rw [ha] at h <;> cases h <;>
    refine .untyped fun ht => ?_ <;>
    obtain ⟨text, htext⟩ := resolveAlias_textual ht typed <;>
    rw [ha] at htext <;> cases htext

/-- **What a stage does**: a change that its command may make, or no change and a failure. -/
theorem runStage_keeping (hk : Keeping registry) (line : Text) :
    (∃ key reply, calledKey state line = some key ∧
      ((runStage registry context line).run state).result = .ok reply ∧
      Allowed key state ((runStage registry context line).run state).state) ∨
    (∃ failure, ((runStage registry context line).run state).result = .error failure ∧
      Excused context.items state failure ∧
      ((runStage registry context line).run state).state = state) := by
  have hrun := runStage_run registry context line state
  generalize (runStage registry context line).run state = outcome at hrun
  cases hrun with
  | blank => exact Or.inr ⟨_, rfl, .deliberate rfl, rfl⟩
  | unknown => exact Or.inr ⟨_, rfl, .deliberate rfl, rfl⟩
  | untyped _ hl => exact Or.inr ⟨_, rfl, excused_of_lookup_error hl, rfl⟩
  | @ran typed args command ht hl =>
    obtain ⟨name, hname, hkey, hkeeps⟩ := hk hl
    rcases hkeeps (surroundings registry context) args state with
      ⟨reply, hres, hallowed⟩ | ⟨failure, hres, hexcused, hst⟩
    · refine Or.inl ⟨_, reply, calledKey_of_tokenize ht hname, ?_, ?_⟩
      · rw [settle, hres]
      · rw [settle_state, ← hkey]; exact hallowed
    · refine Or.inr ⟨failure, ?_, hexcused, ?_⟩
      · rw [settle, hres]
      · rw [settle_state]; exact hst

/-! ### One command -/

/-- The changes that the command called may make; a line that calls none may make none. -/
def Permitted : Option Text → State → State → Prop
  | some key => Allowed key
  | none => Unchanged

variable {interpreter : Interpreter} {line : Text}

theorem isPipeline_trimmed (h : isPipeline line = false) :
    isPipeline (trimmed (some line)) = false :=
  isPipeline_eq_false_of_isInfix (strip_isInfix line) h

/-- A single command succeeds after a change it may make, or fails and changes nothing. -/
theorem execute_keeping (hk : Keeping interpreter.registry) (hp : isPipeline line = false) :
    ((∃ result, (interpreter.execute (some line)).1 = .ok result ∧ result.success = true) ∧
      Permitted (calledKey interpreter.state (strip line)) interpreter.state
        (interpreter.execute (some line)).2.state) ∨
    ((∀ result, (interpreter.execute (some line)).1 = .ok result → result.success = false) ∧
      (interpreter.execute (some line)).2.state = interpreter.state) := by
  by_cases hb : trimmed (some line) = []
  · obtain ⟨millis, timer, he⟩ := execute_of_blank interpreter (some line) hb
    have hs : strip line = [] := hb
    rw [he, hs]
    exact Or.inl ⟨⟨_, rfl, rfl⟩, rfl⟩
  · obtain ⟨⟨millis, hres⟩, hst⟩ :=
      execute_single interpreter (some line) hb (isPipeline_trimmed hp)
    rw [hres, hst]
    rcases runStage_keeping hk (trimmed (some line)) with
      ⟨key, reply, hkey, hok, hallowed⟩ | ⟨failure, herr, -, hsame⟩
    · refine Or.inl ⟨⟨_, by rw [hok]; rfl, rfl⟩, ?_⟩
      have hk : calledKey interpreter.state (strip line) = some key := hkey
      rw [hk]
      exact hallowed
    · refine Or.inr ⟨fun result h => ?_, hsame⟩
      rw [herr] at h
      exact success_of_conclude_error h

/-- **Failures are atomic.** A single command that does not succeed leaves the state as it was. -/
theorem execute_atomic (interpreter : Interpreter) (line : Text)
    (hr : interpreter.registry = .default) (hp : isPipeline line = false)
    (hf : ∀ result, (interpreter.execute (some line)).1 = .ok result → result.success = false) :
    (interpreter.execute (some line)).2.state = interpreter.state := by
  have hk : Keeping interpreter.registry := by rw [hr]; exact default_keeping
  rcases execute_keeping hk hp with ⟨⟨result, hok, hs⟩, -⟩ | ⟨-, hsame⟩
  · rw [hf result hok] at hs; cases hs
  · exact hsame

/-- A line of two quotes has no token, fails and changes nothing. -/
theorem execute_atomic_quotes :
    (simulated (.str "C:")).registry = .default ∧ isPipeline ['"', '"'] = false ∧
    (∀ result, ((simulated (.str "C:")).execute (some ['"', '"'])).1 = .ok result →
      result.success = false) ∧
    ((simulated (.str "C:")).execute (some ['"', '"'])).2.state = (simulated (.str "C:")).state :=
  have hf : ∀ result, ((simulated (.str "C:")).execute (some ['"', '"'])).1 = .ok result →
      result.success = false := by
    rintro result ⟨⟩
    rfl
  ⟨rfl, by decide, hf, execute_atomic _ _ rfl (by decide) hf⟩

/-! ### Runs -/

/-- Home and aliases stay; modules and variables are only added, in place behind the old ones. -/
structure Grown (before after : State) : Prop where
  home : after.home = before.home
  aliases : after.aliases = before.aliases
  modules : before.modules <+: after.modules
  names : before.bindings.names <+: after.bindings.names

theorem Grown.refl (state : State) : Grown state state :=
  ⟨rfl, rfl, List.prefix_rfl, List.prefix_rfl⟩

theorem Grown.trans {s t u : State} (h : Grown s t) (h' : Grown t u) : Grown s u :=
  ⟨h'.home.trans h.home, h'.aliases.trans h.aliases, h.modules.trans h'.modules,
    h.names.trans h'.names⟩

theorem grown_of_allowed {key : Text} {before after : State} (h : Allowed key before after) :
    Grown before after := by
  unfold Allowed at h
  split_ifs at h
  · exact ⟨h.home, h.aliases, h.modules ▸ List.prefix_rfl, h.pwd.names_isPrefix⟩
  · obtain ⟨name, value, hw⟩ := h.binding
    exact ⟨h.home, h.aliases, h.modules ▸ List.prefix_rfl, hw.names_isPrefix⟩
  · refine ⟨h.home, h.aliases, ?_, h.bindings ▸ List.prefix_rfl⟩
    rcases h.modules with hm | ⟨name, -, hm⟩
    · exact hm.symm ▸ List.prefix_rfl
    · rw [hm]; exact List.prefix_append _ _
  · rw [h]; exact Grown.refl before

theorem runStage_grown (hk : Keeping registry) (line : Text) :
    Grown state ((runStage registry context line).run state).state := by
  rcases runStage_keeping hk line with ⟨key, reply, -, -, hallowed⟩ | ⟨failure, -, -, hsame⟩
  · exact grown_of_allowed hallowed
  · rw [hsame]; exact Grown.refl state

theorem executeAll_grown (hk : Keeping interpreter.registry) (lines : List (Option Text)) :
    Grown interpreter.state (executeAll interpreter lines).state :=
  executeAll_rel Grown.refl Grown.trans lines fun line _ => runStage_grown hk line

/-- **The frame of the built-in commands.** A single command that succeeds changes what it may
change and nothing else, and a run of lines only adds to the state. -/
theorem execute_frame (interpreter : Interpreter) (hr : interpreter.registry = .default) :
    (∀ line result, isPipeline line = false →
      (interpreter.execute (some line)).1 = .ok result → result.success = true →
      Permitted (calledKey interpreter.state (strip line)) interpreter.state
        (interpreter.execute (some line)).2.state) ∧
    ∀ lines, Grown interpreter.state (executeAll interpreter lines).state := by
  have hk : Keeping interpreter.registry := by rw [hr]; exact default_keeping
  constructor
  · intro line result hp hok hs
    rcases execute_keeping hk hp with ⟨-, hpermitted⟩ | ⟨hfail, -⟩
    · exact hpermitted
    · rw [hfail result hok] at hs; cases hs
  · exact executeAll_grown hk

/-- `Set-Variable` writes one variable, and later lines keep it. -/
theorem execute_frame_assigned :
    (simulated (.str "C:")).registry = .default ∧ isPipeline "Set-Variable a 1" = false ∧
    (∃ result, ((simulated (.str "C:")).execute (some "Set-Variable a 1")).1 = .ok result ∧
      result.success = true) ∧
    Assigned (simulated (.str "C:")).state
      ((simulated (.str "C:")).execute (some "Set-Variable a 1")).2.state ∧
    ∀ lines,
      Grown (simulated (.str "C:")).state (executeAll (simulated (.str "C:")) lines).state := by
  have hp : isPipeline "Set-Variable a 1" = false := by decide
  have hk : calledKey (simulated (.str "C:")).state (strip "Set-Variable a 1") =
    some "set-variable" := by decide
  have hs : (((simulated (.str "C:")).execute (some "Set-Variable a 1")).1.map
    (·.success)).toOption = some true := by decide +kernel
  cases hr : ((simulated (.str "C:")).execute (some "Set-Variable a 1")).1 with
  | error fault => rw [hr] at hs; cases hs
  | ok result =>
    rw [hr] at hs
    have hsuccess : result.success = true := Option.some.inj hs
    obtain ⟨hframe, hgrown⟩ := execute_frame (simulated (.str "C:")) rfl
    have hassigned := hframe _ result hp hr hsuccess
    rw [hk] at hassigned
    exact ⟨rfl, hp, ⟨result, rfl, hsuccess⟩, hassigned, hgrown⟩

end CmdletShell.Proofs.Runs.Frame
