import CmdletShell.Proofs.Builtins.Changes

/-!
# The parameters that commands ask for

A parameter that a built-in command reports missing is one of a few (`Asks`): `builtin_asking` says
so of every built-in command, and `default_asking` of the default registry.
-/

namespace CmdletShell.Proofs.Builtins.Parameters

open CmdletShell.Cmdlet CmdletShell.Argument
open CmdletShell.Proofs.Builtins.Handlers CmdletShell.Proofs.Builtins.Registry
open CmdletShell.Proofs.Builtins.Changes

variable {failure : Failure} {command : Command} {args : List Text}

/-! ### The parameters that are asked for -/

/-- The parameters that built-in commands ask for. -/
def parameters : List Text := ["Path", "Destination", "Name", "Value", "Uri"]

/-- A parameter that is missing is one of those. -/
def Asks : Failure → Prop
  | .missing _ parameter _ => parameter ∈ parameters
  | _ => True

/-- The command asks for no other parameters. -/
def Asking (command : Command) : Prop :=
  ∀ context args state failure,
    ((command.handler context args).run state).result = .error failure → Asks failure

theorem asking_reading {description : Description}
    {f : Context → State → List Text → Except Failure Reply}
    (hf : ∀ {context state args failure}, f context state args = .error failure → Asks failure) :
    Asking ⟨description, Handler.reading f⟩ := by
  intro context args state failure h
  dsimp only at h
  rw [reading_run] at h
  cases hr : f context state args with
  | error failure =>
    rw [hr] at h
    cases h
    exact hf hr
  | ok reply =>
    rw [hr] at h
    cases h

theorem asking_changing {description : Description}
    {f : Context → State → List Text → Except Failure (Reply × State)}
    (hf : ∀ {context state args failure}, f context state args = .error failure → Asks failure) :
    Asking ⟨description, Handler.changing f⟩ := by
  intro context args state failure h
  dsimp only at h
  rw [changing_run] at h
  cases hr : f context state args with
  | error failure =>
    rw [hr] at h
    cases h
    exact hf hr
  | ok result =>
    rw [hr] at h
    cases h

theorem asking_of_replies (h : Replies command) : Asking command := by
  cases h with
  | intro f _ => exact asking_reading fun hf => by cases hf

theorem asks_storeReply {result : Except Fault Text} (h : storeReply result = .error failure) :
    Asks failure := by
  obtain ⟨fault, rfl, -⟩ := storeReply_error h
  trivial

theorem asks_operands {name : Text} (h : operands name args = .error failure) : Asks failure := by
  have hparameters : ("Path" : Text) ∈ parameters ∧ ("Destination" : Text) ∈ parameters := by
    decide
  unfold operands at h
  split at h <;> cases h
  · exact hparameters.1
  · exact hparameters.2

theorem asks_assignment (h : assignment args = .error failure) : Asks failure := by
  have hname : ("Name" : Text) ∈ parameters := by decide
  have hvalue : ("Value" : Text) ∈ parameters := by decide
  unfold assignment at h
  dsimp only at h
  split at h
  · cases h
    unfold Asks
    dsimp only
    split
    · exact hname
    · exact hvalue
  · rcases bind_error_cases h with h | ⟨⟨name, value⟩, -, h⟩
    · unfold readNameValue at h
      split at h
      · cases h
      · next slot token _ =>
        cases h
        cases slot
        · exact hname
        · exact hvalue
    · dsimp only at h
      split at h <;> cases h
      · exact hname
      · exact hvalue

/-! ### The commands that may fail -/

theorem asking_setLocation : Asking setLocation := by
  refine asking_changing fun {context state args failure} h => ?_
  split at h <;> cases h
  trivial

theorem asking_getContent : Asking getContent := by
  refine asking_reading fun {context state args failure} h => ?_
  split at h <;> cases h
  exact (by decide : ("Path" : Text) ∈ parameters)

theorem asking_testPath : Asking testPath := by
  refine asking_reading fun {context state args failure} h => ?_
  split at h <;> cases h
  exact (by decide : ("Path" : Text) ∈ parameters)

theorem asking_newItem : Asking newItem := by
  intro context args state failure h
  cases hp : flagOrPositional "-Path" itemFlags args with
  | none =>
    unfold newItem at h
    dsimp only at h
    rw [hp] at h
    cases h
    exact (by decide : ("Path" : Text) ∈ parameters)
  | some path =>
    obtain ⟨source, message, hr⟩ := newItem_run context hp state
    rw [hr] at h
    cases hs : storeReply (context.items.create path (itemType args)) with
    | error failure' =>
      rw [hs] at h
      cases h
      exact asks_storeReply hs
    | ok reply =>
      rw [hs] at h
      cases h

/-- A command with a source and a destination, which asks the store. -/
theorem asking_transfer {description : Description}
    (operation : ItemStore → Text → Text → Except Fault Text) :
    Asking ⟨description, Handler.reading fun context _ args => do
      let (source, destination) ← operands description.name args
      storeReply (operation context.items source destination)⟩ := by
  refine asking_reading fun {context state args failure} h => ?_
  rcases bind_error_cases h with h | ⟨_, -, h⟩
  · exact asks_operands h
  · exact asks_storeReply h

theorem asking_copyItem : Asking copyItem := asking_transfer ItemStore.copy

theorem asking_moveItem : Asking moveItem := asking_transfer ItemStore.move

theorem asking_removeItem : Asking removeItem := by
  refine asking_reading fun {context state args failure} h => ?_
  split at h
  · cases h
    exact (by decide : ("Path" : Text) ∈ parameters)
  · exact asks_storeReply h

theorem asking_setVariable : Asking setVariable := by
  refine asking_changing fun {context state args failure} h => ?_
  rcases bind_error_cases h with h | ⟨_, -, h⟩
  · exact asks_assignment h
  · cases h

theorem asking_importModule : Asking importModule := by
  refine asking_changing fun {context state args failure} h => ?_
  split at h <;> cases h
  exact (by decide : ("Name" : Text) ∈ parameters)

theorem asking_getHelp : Asking getHelp := by
  refine asking_reading fun {context state args failure} h => ?_
  split at h
  · cases h
  · rcases bind_error_cases h with h | ⟨_, -, h⟩
    · obtain ⟨⟨kind, operation, rfl⟩, -⟩ := topicDescription_error h
      trivial
    · cases h

theorem asking_getRandom : Asking getRandom := by
  refine asking_reading fun {context state args failure} h => ?_
  rcases bind_error_cases h with h | ⟨_, -, h⟩
  · rcases randomBetween_error h with ⟨raw, rfl, -⟩ | ⟨least, greatest, rfl, -⟩ <;> trivial
  · cases h

theorem asking_whoami : Asking whoami := by
  refine asking_reading fun {context state args failure} h => ?_
  split at h <;> cases h
  trivial

theorem asking_invokeWebRequest : Asking invokeWebRequest := by
  intro context args state failure h
  unfold invokeWebRequest at h
  dsimp only at h
  cases hp : flagOrPositional "-Uri" ["-Uri", "-Method"] args with
  | none =>
    rw [hp] at h
    cases h
    exact (by decide : ("Uri" : Text) ∈ parameters)
  | some address =>
    rw [hp] at h
    cases h

/-- **No built-in command asks for any other parameter.** -/
theorem builtin_asking (h : command ∈ builtins.flatMap (·.2)) : Asking command := by
  rcases builtin_cases h with h | h
  · exact asking_of_replies h
  simp only [fallible, List.mem_cons, List.not_mem_nil, or_false] at h
  rcases h with rfl | rfl | rfl | rfl | rfl | rfl | rfl | rfl | rfl | rfl | rfl | rfl | rfl
  · exact asking_setLocation
  · exact asking_getContent
  · exact asking_testPath
  · exact asking_newItem
  · exact asking_copyItem
  · exact asking_moveItem
  · exact asking_removeItem
  · exact asking_setVariable
  · exact asking_importModule
  · exact asking_getHelp
  · exact asking_getRandom
  · exact asking_whoami
  · exact asking_invokeWebRequest

/-- A command of the default registry asks for no other parameter. -/
theorem default_asking {target : Value}
    (h : Registry.default.lookup target = .ok (some command)) : Asking command := by
  obtain ⟨name, -, hmem, -⟩ := lookup_ofList h
  obtain ⟨builtin, hb, rfl⟩ := List.mem_map.mp hmem
  exact (builtin_asking hb : Asking builtin)

end CmdletShell.Proofs.Builtins.Parameters
