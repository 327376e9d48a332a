import CmdletShell.Proofs.Builtins.Changes

/-!
# Why the built-in commands fail

What a built-in command reports on purpose is its own (`Own`): one of its parameters is missing, or
a bound of `Get-Random` is no whole number or above the other one. `builtin_reasoned` says so of
every built-in command, and that it notes nothing but details.

With simulated items and in a textual state there is no other reason: `own_of_textual`.
-/

namespace CmdletShell.Proofs.Builtins.Reasons

open CmdletShell.Cmdlet CmdletShell.Argument
open CmdletShell.Proofs.Builtins.Handlers CmdletShell.Proofs.Builtins.Registry
open CmdletShell.Proofs.Builtins.Changes

/-- **The failures that are a command's own**, by its key. -/
inductive Own (key : Text) : Failure → Prop
  /-- A parameter of the command is missing. -/
  | missing {command parameter detail} : Text.lower command = key →
      Own key (.missing command parameter detail)
  /-- A bound of the random number is no whole number. -/
  | notInteger {raw} : key = "get-random" → Text.readInteger? raw = none →
      Own key (.notInteger raw)
  /-- The bounds of the random number are reversed. -/
  | boundsReversed {least greatest} : key = "get-random" → greatest < least →
      Own key (.boundsReversed least greatest)

theorem Own.isDeliberate {key : Text} {failure : Failure} (h : Own key failure) :
    failure.isDeliberate = true := by
  cases h <;> rfl

/-- What the command reports on purpose is its own, and it notes nothing but details. -/
def Reasoned (command : Command) : Prop :=
  ∀ context args state,
    (∀ failure, ((command.handler context args).run state).result = .error failure →
      failure.isDeliberate = true → Own command.description.key failure) ∧
    ∀ entry ∈ ((command.handler context args).run state).entries, entry.level = .debug

/-! ### The two forms of handler -/

theorem reasoned_reading {description : Description}
    {f : Context → State → List Text → Except Failure Reply}
    (hf : ∀ {context state args failure}, f context state args = .error failure →
      failure.isDeliberate = true → Own description.key failure) :
    Reasoned ⟨description, Handler.reading f⟩ := by
  intro context args state
  dsimp only
  rw [reading_run]
  cases hr : f context state args with
  | error failure =>
    refine ⟨fun failure' h hd => ?_, by rintro entry ⟨⟩⟩
    cases h
    exact hf hr hd
  | ok reply => exact ⟨by rintro failure ⟨⟩, by rintro entry ⟨⟩⟩

theorem reasoned_changing {description : Description}
    {f : Context → State → List Text → Except Failure (Reply × State)}
    (hf : ∀ {context state args failure}, f context state args = .error failure →
      failure.isDeliberate = true → Own description.key failure) :
    Reasoned ⟨description, Handler.changing f⟩ := by
  intro context args state
  dsimp only
  rw [changing_run]
  cases hr : f context state args with
  | error failure =>
    refine ⟨fun failure' h hd => ?_, by rintro entry ⟨⟩⟩
    cases h
    exact hf hr hd
  | ok result => exact ⟨by rintro failure ⟨⟩, by rintro entry ⟨⟩⟩

theorem reasoned_of_replies {command : Command} (h : Replies command) : Reasoned command := by
  cases h with
  | intro f _ => exact reasoned_reading fun hf => by cases hf

/-! ### The commands that may fail -/

/-- The store of items reports nothing on purpose. -/
theorem storeReply_not_deliberate {result : Except Fault Text} {failure : Failure}
    (h : storeReply result = .error failure) : failure.isDeliberate = false := by
  obtain ⟨fault, rfl, -⟩ := storeReply_error h
  rfl

theorem reasoned_setLocation : Reasoned setLocation := by
  refine reasoned_changing fun {context state args failure} h hd => ?_
  split at h <;> cases h
  cases hd

theorem reasoned_setVariable : Reasoned setVariable := by
  refine reasoned_changing fun {context state args failure} h _ => ?_
  rcases bind_error_cases h with h | ⟨_, -, h⟩
  · obtain ⟨parameter, detail, rfl⟩ := assignment_error h
    exact .missing rfl
  · cases h

theorem reasoned_importModule : Reasoned importModule := by
  refine reasoned_changing fun {context state args failure} h _ => ?_
  split at h <;> cases h
  exact .missing rfl

theorem reasoned_getContent : Reasoned getContent := by
  refine reasoned_reading fun {context state args failure} h _ => ?_
  split at h <;> cases h
  exact .missing rfl

theorem reasoned_testPath : Reasoned testPath := by
  refine reasoned_reading fun {context state args failure} h _ => ?_
  split at h <;> cases h
  exact .missing rfl

/-- A command with a source and a destination, which asks the store. -/
theorem reasoned_transfer {description : Description}
    (operation : ItemStore → Text → Text → Except Fault Text) :
    Reasoned ⟨description, Handler.reading fun context _ args => do
      let (source, destination) ← operands description.name args
      storeReply (operation context.items source destination)⟩ := by
  refine reasoned_reading fun {context state args failure} h hd => ?_
  rcases bind_error_cases h with h | ⟨⟨source, destination⟩, -, h⟩
  · obtain ⟨parameter, detail, rfl⟩ := operands_error h
    exact .missing rfl
  · rw [storeReply_not_deliberate h] at hd
    cases hd

theorem reasoned_copyItem : Reasoned copyItem := reasoned_transfer ItemStore.copy

theorem reasoned_moveItem : Reasoned moveItem := reasoned_transfer ItemStore.move

theorem reasoned_removeItem : Reasoned removeItem := by
  refine reasoned_reading fun {context state args failure} h hd => ?_
  split at h
  · cases h
    exact .missing rfl
  · rw [storeReply_not_deliberate h] at hd
    cases hd

theorem reasoned_getHelp : Reasoned getHelp := by
  refine reasoned_reading fun {context state args failure} h hd => ?_
  split at h
  · cases h
  · rcases bind_error_cases h with h | ⟨_, -, h⟩
    · obtain ⟨⟨kind, operation, rfl⟩, -⟩ := topicDescription_error h
      cases hd
    · cases h

theorem reasoned_getRandom : Reasoned getRandom := by
  refine reasoned_reading fun {context state args failure} h _ => ?_
  have hkey : getRandom.description.key = "get-random" := by decide
  rcases bind_error_cases h with h | ⟨_, -, h⟩
  · rcases randomBetween_error h with ⟨raw, rfl, hraw⟩ | ⟨least, greatest, rfl, hlt⟩
    · exact .notInteger hkey hraw
    · exact .boundsReversed hkey hlt
  · cases h

theorem reasoned_whoami : Reasoned whoami := by
  refine reasoned_reading fun {context state args failure} h hd => ?_
  split at h <;> cases h
  cases hd

/-- A new item notes that it is asked for. -/
theorem reasoned_newItem : Reasoned newItem := by
  intro context args state
  cases hp : flagOrPositional "-Path" itemFlags args with
  | none =>
    unfold newItem
    dsimp only
    rw [hp]
    refine ⟨fun failure h _ => ?_, by rintro entry ⟨⟩⟩
    cases h
    exact .missing rfl
  | some path =>
    obtain ⟨source, message, hr⟩ := newItem_run context hp state
    rw [hr]
    refine ⟨fun failure h hd => ?_, by simp⟩
    cases hs : storeReply (context.items.create path (itemType args)) with
    | error failure' =>
      rw [hs] at h
      cases h
      rw [storeReply_not_deliberate hs] at hd
      cases hd
    | ok reply =>
      rw [hs] at h
      cases h

/-- A request for a page notes the address. -/
theorem reasoned_invokeWebRequest : Reasoned invokeWebRequest := by
  intro context args state
  unfold invokeWebRequest
  dsimp only
  cases hp : flagOrPositional "-Uri" ["-Uri", "-Method"] args with
  | none =>
    refine ⟨fun failure h _ => ?_, by rintro entry ⟨⟩⟩
    cases h
    exact .missing rfl
  | some address =>
    refine ⟨by rintro failure ⟨⟩, fun entry he => ?_⟩
    obtain rfl := List.mem_singleton.mp he
    rfl

/-! ### All commands -/

/-- **What a built-in command reports on purpose is its own.** -/
theorem builtin_reasoned {command : Command} (h : command ∈ builtins.flatMap (·.2)) :
    Reasoned command := by
  rcases builtin_cases h with h | h
  · exact reasoned_of_replies h
  simp only [fallible, List.mem_cons, List.not_mem_nil, or_false] at h
  rcases h with rfl | rfl | rfl | rfl | rfl | rfl | rfl | rfl | rfl | rfl | rfl | rfl | rfl
  · exact reasoned_setLocation
  · exact reasoned_getContent
  · exact reasoned_testPath
  · exact reasoned_newItem
  · exact reasoned_copyItem
  · exact reasoned_moveItem
  · exact reasoned_removeItem
  · exact reasoned_setVariable
  · exact reasoned_importModule
  · exact reasoned_getHelp
  · exact reasoned_getRandom
  · exact reasoned_whoami
  · exact reasoned_invokeWebRequest

theorem reasoned_complete {command : Command} (h : Reasoned command) :
    Reasoned command.complete := by
  unfold Reasoned at h ⊢
  rw [key_complete]
  exact h

variable {context : Context} {state : State} {command : Command} {failure : Failure}

/-- With simulated items and in a textual state every excused failure is reported on purpose. -/
theorem isDeliberate_of_excused (ht : Textual state)
    (h : Excused .simulated state failure) : failure.isDeliberate = true := by
  cases h with
  | deliberate hd => exact hd
  | untyped hn => exact absurd ht hn
  | store hs => rcases hs with h | h | h | h <;> cases h

/-- **In a textual state a command fails for a reason of its own only.** -/
theorem own_of_textual (hk : Keeps command) (hr : Reasoned command)
    (hi : context.items = .simulated) (ht : Textual state) {args : List Text}
    (h : ((command.handler context args).run state).result = .error failure) :
    Own command.description.key failure := by
  rcases hk context args state with ⟨reply, hok, -⟩ | ⟨failure', herr, hexcused, -⟩
  · rw [hok] at h
    cases h
  · rw [herr] at h
    cases h
    rw [hi] at hexcused
    exact (hr context args state).1 failure herr (isDeliberate_of_excused ht hexcused)

/-! ### The default registry -/

/-- A command of the default registry gives its own reasons. -/
theorem default_reasoned {target : Value}
    (h : Registry.default.lookup target = .ok (some command)) : Reasoned command := by
  obtain ⟨name, -, hmem, -⟩ := lookup_ofList h
  obtain ⟨builtin, hb, rfl⟩ := List.mem_map.mp hmem
  exact reasoned_complete (builtin_reasoned hb)

end CmdletShell.Proofs.Builtins.Reasons
