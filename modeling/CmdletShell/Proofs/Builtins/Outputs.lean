import CmdletShell.Proofs.Builtins.Changes

/-!
# What the built-in commands put out

`Get-Location` puts out the location, which may be a value of any kind. Whatever another built-in
command puts out is a text (`builtin_telling`).
-/

namespace CmdletShell.Proofs.Builtins.Outputs

open CmdletShell.Cmdlet CmdletShell.Argument
open CmdletShell.Proofs.Builtins.Handlers CmdletShell.Proofs.Builtins.Registry
open CmdletShell.Proofs.Builtins.Changes

/-- The output is a text, or the location. -/
def Tells (state : State) (reply : Reply) : Prop :=
  (∃ text, reply.output = .str text) ∨ reply.output = state.location

/-- Whatever the command replies is a text, or the location. -/
def Telling (command : Command) : Prop :=
  ∀ context args state reply,
    ((command.handler context args).run state).result = .ok (.reply reply) → Tells state reply

/-! ### The two forms of handler -/

variable {description : Description}

theorem telling_reading {f : Context → State → List Text → Except Failure Reply}
    (h : ∀ {context state args reply}, f context state args = .ok reply → Tells state reply) :
    Telling ⟨description, Handler.reading f⟩ := by
  intro context args state reply hr
  dsimp only at hr
  rw [reading_run] at hr
  obtain ⟨found, hf, heq⟩ := ok_of_map hr
  cases heq
  exact h hf

theorem telling_changing {f : Context → State → List Text → Except Failure (Reply × State)}
    (h : ∀ {context state args reply after}, f context state args = .ok (reply, after) →
      Tells state reply) :
    Telling ⟨description, Handler.changing f⟩ := by
  intro context args state reply hr
  dsimp only at hr
  rw [changing_run] at hr
  cases hf : f context state args with
  | error failure => rw [hf] at hr; cases hr
  | ok result => rw [hf] at hr; cases hr; exact h hf

/-- A command that always replies with a text. -/
theorem telling_text (shown : Context → State → List Text → Text) (shape : Shape) :
    Telling ⟨description, Handler.reading fun context state args =>
      .ok ⟨.str (shown context state args), shape⟩⟩ := by
  refine telling_reading fun {context state args reply} h => ?_
  cases h
  exact Or.inl ⟨_, rfl⟩

/-! ### The commands that may fail -/

theorem tells_of_storeReply {result : Except Fault Text} {state : State} {reply : Reply}
    (h : storeReply result = .ok reply) : Tells state reply := by
  cases result with
  | error fault => cases h
  | ok words => cases h; exact Or.inl ⟨_, rfl⟩

theorem telling_setLocation : Telling setLocation := by
  refine telling_changing fun {context state args reply after} h => ?_
  split at h <;> cases h
  exact Or.inl ⟨_, rfl⟩

theorem telling_setVariable : Telling setVariable := by
  refine telling_changing fun {context state args reply after} h => ?_
  obtain ⟨_, -, h⟩ := ok_of_bind h
  cases h
  exact Or.inl ⟨_, rfl⟩

theorem telling_importModule : Telling importModule := by
  refine telling_changing fun {context state args reply after} h => ?_
  split at h <;> cases h
  exact Or.inl ⟨_, rfl⟩

theorem telling_getContent : Telling getContent := by
  refine telling_reading fun {context state args reply} h => ?_
  split at h <;> cases h
  exact Or.inl ⟨_, rfl⟩

theorem telling_testPath : Telling testPath := by
  refine telling_reading fun {context state args reply} h => ?_
  split at h <;> cases h
  exact Or.inl ⟨_, rfl⟩

/-- A command with a source and a destination, which asks the store. -/
theorem telling_transfer {name : Text}
    (operation : ItemStore → Text → Text → Except Fault Text) :
    Telling ⟨description, Handler.reading fun context _ args => do
      let (source, destination) ← operands name args
      storeReply (operation context.items source destination)⟩ := by
  refine telling_reading fun {context state args reply} h => ?_
  obtain ⟨_, -, h⟩ := ok_of_bind h
  exact tells_of_storeReply h

theorem telling_removeItem : Telling removeItem := by
  refine telling_reading fun {context state args reply} h => ?_
  split at h
  · cases h
  · exact tells_of_storeReply h

theorem telling_getHelp : Telling getHelp := by
  refine telling_reading fun {context state args reply} h => ?_
  split at h
  · cases h
    exact Or.inl ⟨_, rfl⟩
  · obtain ⟨_, -, h⟩ := ok_of_bind h
    cases h
    exact Or.inl ⟨_, rfl⟩

theorem telling_getRandom : Telling getRandom := by
  refine telling_reading fun {context state args reply} h => ?_
  obtain ⟨_, -, h⟩ := ok_of_bind h
  cases h
  exact Or.inl ⟨_, rfl⟩

theorem telling_whoami : Telling whoami := by
  refine telling_reading fun {context state args reply} h => ?_
  split at h <;> cases h
  exact Or.inl ⟨_, rfl⟩

theorem telling_newItem : Telling newItem := by
  intro context args state reply h
  cases hp : flagOrPositional "-Path" itemFlags args with
  | none =>
    unfold newItem at h
    dsimp only at h
    rw [hp] at h
    cases h
  | some path =>
    obtain ⟨source, message, hr⟩ := newItem_run context hp state
    rw [hr] at h
    obtain ⟨found, hs, heq⟩ := ok_of_map h
    cases heq
    exact tells_of_storeReply hs

theorem telling_invokeWebRequest : Telling invokeWebRequest := by
  intro context args state reply h
  unfold invokeWebRequest at h
  dsimp only at h
  cases hp : flagOrPositional "-Uri" ["-Uri", "-Method"] args with
  | none => rw [hp] at h; cases h
  | some address => rw [hp] at h; cases h; exact Or.inl ⟨_, rfl⟩

/-! ### All commands -/

theorem telling_fallible {command : Command} (h : command ∈ fallible) : Telling command := by
  simp only [fallible, List.mem_cons, List.not_mem_nil, or_false] at h
  rcases h with rfl | rfl | rfl | rfl | rfl | rfl | rfl | rfl | rfl | rfl | rfl | rfl | rfl
  · exact telling_setLocation
  · exact telling_getContent
  · exact telling_testPath
  · exact telling_newItem
  · exact telling_transfer ItemStore.copy
  · exact telling_transfer ItemStore.move
  · exact telling_removeItem
  · exact telling_setVariable
  · exact telling_importModule
  · exact telling_getHelp
  · exact telling_getRandom
  · exact telling_whoami
  · exact telling_invokeWebRequest

theorem telling_getLocation : Telling getLocation := by
  refine telling_reading fun {context state args reply} h => ?_
  cases h
  exact Or.inr rfl

/-- **Every built-in command puts out a text, or the location.** -/
theorem builtin_telling {command : Command} (h : command ∈ builtins.flatMap (·.2)) :
    Telling command := by
  simp only [builtins, List.flatMap_cons, List.flatMap_nil, List.append_nil, List.mem_append] at h
  rcases h with h | h | h | h | h | h
  · simp only [locationCommands, List.mem_cons, List.not_mem_nil, or_false] at h
    rcases h with rfl | rfl | rfl | rfl | rfl
    · exact telling_getLocation
    · exact telling_setLocation
    · exact telling_text _ .table
    · exact telling_getContent
    · exact telling_testPath
  · refine telling_fallible ?_
    simp only [itemCommands, List.mem_cons, List.not_mem_nil, or_false] at h
    rcases h with rfl | rfl | rfl | rfl <;> simp [fallible]
  · simp only [sessionCommands, List.mem_cons, List.not_mem_nil, or_false] at h
    rcases h with rfl | rfl | rfl | rfl | rfl | rfl | rfl
    · exact telling_text _ .table
    · exact telling_setVariable
    · exact telling_text _ .table
    · exact telling_importModule
    · exact telling_text _ .text
    · exact telling_text _ .text
    · exact telling_text _ .text
  · simp only [systemCommands, List.mem_cons, List.not_mem_nil, or_false] at h
    rcases h with rfl | rfl | rfl | rfl | rfl | rfl | rfl | rfl | rfl | rfl | rfl
    · exact telling_text _ .text
    · exact telling_text _ .table
    · exact telling_text _ .table
    · exact telling_text _ .table
    · exact telling_getHelp
    · exact telling_text _ .text
    · exact telling_getRandom
    · exact telling_text _ .text
    · exact telling_text _ .object
    · exact telling_text _ .table
    · exact telling_whoami
  · simp only [pipelineCommands, List.mem_cons, List.not_mem_nil, or_false] at h
    rcases h with rfl | rfl | rfl | rfl | rfl | rfl | rfl <;> exact telling_text _ _
  · simp only [networkCommands, List.mem_cons, List.not_mem_nil, or_false] at h
    rcases h with rfl | rfl
    · exact telling_invokeWebRequest
    · exact telling_text _ .table

/-! ### The default registry -/

/-- A command of the default registry puts out a text, or the location. -/
theorem default_telling {target : Value} {command : Command}
    (h : Registry.default.lookup target = .ok (some command)) : Telling command := by
  obtain ⟨name, -, hmem, -⟩ := lookup_ofList h
  obtain ⟨builtin, hb, rfl⟩ := List.mem_map.mp hmem
  exact (builtin_telling hb : Telling builtin)

end CmdletShell.Proofs.Builtins.Outputs
