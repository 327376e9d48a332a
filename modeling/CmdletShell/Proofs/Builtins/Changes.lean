import CmdletShell.Cmdlet.Builtin
import CmdletShell.Proofs.Builtins.Fields
import CmdletShell.Proofs.Builtins.Handlers
import CmdletShell.Proofs.Builtins.Registry

/-!
# What the built-in commands change

Three built-in commands write to the state: `Set-Location` the location and `PWD` (`Moved`),
`Set-Variable` one variable (`Assigned`), `Import-Module` the modules (`Imported`). `Allowed` gives
each command, by its key, the changes it may make; the other commands may make none.

A built-in command always replies (`Replies`), or is one of those that may fail (`builtin_cases`).
`builtin_keeps` says that every built-in command keeps to the changes it may make, and
`default_keeping` says it of the commands that the default registry finds.
-/

namespace CmdletShell.Proofs.Builtins.Changes

open CmdletShell.Cmdlet CmdletShell.Argument
open CmdletShell.Proofs.Builtins.Fields CmdletShell.Proofs.Builtins.Handlers
open CmdletShell.Proofs.Builtins.Registry

/-! ### The changes -/

/-- The location and the variable `PWD` are written, and end up equal. -/
structure Moved (before after : State) : Prop where
  home : after.home = before.home
  pwd : Written "PWD" after.location before.bindings after.bindings
  pwd_eq : after.valueOf? "PWD" = some after.location
  aliases : after.aliases = before.aliases
  modules : after.modules = before.modules

/-- One variable is written. -/
structure Assigned (before after : State) : Prop where
  home : after.home = before.home
  location : after.location = before.location
  binding : ∃ name value, Written name value before.bindings after.bindings
  aliases : after.aliases = before.aliases
  modules : after.modules = before.modules

/-- At most one module is added. -/
structure Imported (before after : State) : Prop where
  home : after.home = before.home
  location : after.location = before.location
  bindings : after.bindings = before.bindings
  aliases : after.aliases = before.aliases
  modules : after.modules = before.modules ∨
    ∃ name, name ∉ before.modules ∧ after.modules = before.modules ++ [name]

/-- **The changes that a command may make**, by its key. -/
def Allowed (key : Text) : State → State → Prop :=
  if key = "set-location" then Moved
  else if key = "set-variable" then Assigned
  else if key = "import-module" then Imported
  else Unchanged

theorem moved_moveTo (location : Value) (state : State) : Moved state (state.moveTo location) where
  home := rfl
  pwd := written_put _ _ _
  pwd_eq := (written_put _ _ _).get?_eq
  aliases := rfl
  modules := rfl

theorem assigned_assign (name : Text) (value : Value) (state : State) :
    Assigned state (state.assign name value) where
  home := rfl
  location := rfl
  binding := ⟨name, value, written_put _ _ _⟩
  aliases := rfl
  modules := rfl

theorem imported_load (name : Text) (state : State) : Imported state (state.load name) := by
  unfold State.load
  split
  · exact ⟨rfl, rfl, rfl, rfl, Or.inl rfl⟩
  · next h => exact ⟨rfl, rfl, rfl, rfl, Or.inr ⟨name, by simpa using h, rfl⟩⟩

/-! ### Each command -/

/-- The command changes nothing but what its key allows, and fails for a reason of a built-in
command. -/
def Keeps (command : Command) : Prop :=
  Confined (Allowed command.description.key) command.handler

/-- The keys of the commands that write to the state. -/
def writers : List Text := ["set-location", "set-variable", "import-module"]

/-- A command that is none of the writers and changes nothing. -/
theorem keeps_of_unchanged {command : Command} (hk : command.description.key ∉ writers)
    (h : Confined Unchanged command.handler) : Keeps command := by
  simp only [writers, List.mem_cons, List.not_mem_nil, or_false, not_or] at hk
  rw [Keeps, Allowed, if_neg hk.1, if_neg hk.2.1, if_neg hk.2.2]
  exact h

/-- A command that changes nothing and fails on purpose only. -/
theorem keeps_of_deliberate {description : Description}
    {f : Context → State → List Text → Except Failure Reply} (hk : description.key ∉ writers)
    (h : ∀ {context state args failure}, f context state args = .error failure →
      failure.isDeliberate = true) :
    Keeps ⟨description, Handler.reading f⟩ :=
  keeps_of_unchanged hk (confined_reading fun hf => .deliberate (h hf))

/-! ### Failures of the parts that commands are made of -/

theorem operands_error {command : Text} {args : List Text} {failure : Failure}
    (h : operands command args = .error failure) :
    ∃ parameter detail, failure = .missing command parameter detail := by
  unfold operands at h
  split at h <;> cases h <;> exact ⟨_, _, rfl⟩

theorem readNameValue_error {args : List Text} {failure : Failure}
    (h : readNameValue args = .error failure) :
    ∃ parameter detail, failure = .missing "Set-Variable" parameter detail := by
  unfold readNameValue at h
  split at h <;> cases h
  exact ⟨_, _, rfl⟩

theorem assignment_error {args : List Text} {failure : Failure}
    (h : assignment args = .error failure) :
    ∃ parameter detail, failure = .missing "Set-Variable" parameter detail := by
  unfold assignment at h
  dsimp only at h
  split at h
  · cases h; exact ⟨_, _, rfl⟩
  · rcases bind_error_cases h with h | ⟨⟨name, value⟩, -, h⟩
    · exact readNameValue_error h
    · dsimp only at h
      split at h <;> cases h <;> exact ⟨_, _, rfl⟩

theorem intFlag_error {args : List Text} {flag : Text} {default : Int} {failure : Failure}
    (h : intFlag args flag default = .error failure) :
    ∃ raw, failure = .notInteger raw ∧ Text.readInteger? raw = none := by
  unfold intFlag at h
  split at h
  · cases h
  · next raw _ =>
    split at h <;> cases h
    exact ⟨raw, rfl, ‹_›⟩

/-- No number between bounds is found for two reasons: a bound is no whole number, or the bounds
are reversed. -/
theorem randomBetween_error {random : Int → Int → Int} {args : List Text} {failure : Failure}
    (h : randomBetween random args = .error failure) :
    (∃ raw, failure = .notInteger raw ∧ Text.readInteger? raw = none) ∨
      ∃ least greatest, failure = .boundsReversed least greatest ∧ greatest < least := by
  unfold randomBetween at h
  rcases bind_error_cases h with h | ⟨least, -, h⟩
  · exact Or.inl (intFlag_error h)
  rcases bind_error_cases h with h | ⟨greatest, -, h⟩
  · exact Or.inl (intFlag_error h)
  split at h <;> cases h
  exact Or.inr ⟨least, greatest, rfl, ‹_›⟩

theorem storeReply_error {result : Except Fault Text} {failure : Failure}
    (h : storeReply result = .error failure) :
    ∃ fault, failure = .fault fault ∧ result = .error fault := by
  unfold storeReply at h
  split at h <;> cases h
  exact ⟨_, rfl, rfl⟩

/-- A change of location fails only at a target or a location that is no text. -/
theorem follow_error {current target home : Value} {fault : Fault}
    (h : Location.follow current target home = .error fault) :
    (∃ kind operation, fault = .missingOperation kind operation) ∧
      ((∀ text, target ≠ .str text) ∨ ∀ text, current ≠ .str text) := by
  have hstep : ∀ f, Location.step f current = .error fault →
      (∃ kind operation, fault = .missingOperation kind operation) ∧
        ∀ text, current ≠ .str text := by
    intro f hs
    cases current <;> cases hs <;> exact ⟨⟨_, _, rfl⟩, by simp⟩
  unfold Location.follow at h
  split at h
  · split at h
    · cases h
    · cases h
    · cases h
    · exact (hstep _ h).imp_right Or.inr
    · exact (hstep _ h).imp_right Or.inr
  · next hne =>
    cases h
    exact ⟨⟨_, _, rfl⟩, Or.inl fun text ht => hne text ht⟩

theorem topicDescription_error {context : Context} {state : State} {topic : Text}
    {failure : Failure} (h : topicDescription context state topic = .error failure) :
    (∃ kind operation, failure = .fault (.missingOperation kind operation)) ∧
      ∀ text, state.resolveAlias topic ≠ .str text := by
  unfold topicDescription at h
  cases ha : state.resolveAlias topic <;> rw [ha] at h <;> cases h <;>
    exact ⟨⟨_, _, rfl⟩, by simp⟩

/-- In a textual state the target of `Set-Location` is a text. -/
theorem locationTarget_textual {state : State} (h : Textual state) (args : List Text) :
    ∃ text, locationTarget state args = .str text := by
  cases args with
  | cons target rest => exact ⟨target, rfl⟩
  | nil =>
    cases hv : state.valueOf? "HOME" with
    | none =>
      obtain ⟨text, ht⟩ := h.home
      exact ⟨text, by rw [locationTarget, homeVariable, hv]; exact ht⟩
    | some value =>
      obtain ⟨text, rfl⟩ := h.homeVariable value hv
      exact ⟨text, by rw [locationTarget, homeVariable, hv]; rfl⟩

theorem resolveAlias_textual {state : State} (h : Textual state) (word : Text) :
    ∃ text, state.resolveAlias word = .str text := by
  unfold State.resolveAlias
  cases ha : state.aliases.get? (Text.lower word) with
  | none => exact ⟨word, rfl⟩
  | some value => exact h.aliases _ value ha

/-! ### The commands -/

theorem keeps_setLocation : Keeps setLocation := by
  refine confined_changing (fun {context state args reply after} h => ?_)
    (fun {context state args failure} h => ?_)
  · split at h
    · cases h; exact moved_moveTo _ state
    · cases h
  · split at h
    · cases h
    · next fault hf =>
      cases h
      obtain ⟨⟨kind, operation, rfl⟩, hne⟩ := follow_error hf
      refine .untyped fun ht => ?_
      obtain ⟨text, htarget⟩ := locationTarget_textual ht args
      obtain ⟨location, hlocation⟩ := ht.location
      exact hne.elim (fun h => h text htarget) fun h => h location hlocation

theorem keeps_setVariable : Keeps setVariable := by
  refine confined_changing (fun {context state args reply after} h => ?_)
    (fun {context state args failure} h => ?_)
  · cases ha : assignment args with
    | error failure => rw [ha] at h; cases h
    | ok result => rw [ha] at h; cases h; exact assigned_assign _ _ state
  · rcases bind_error_cases h with h | ⟨_, -, h⟩
    · obtain ⟨parameter, detail, rfl⟩ := assignment_error h
      exact .deliberate rfl
    · cases h

theorem keeps_importModule : Keeps importModule := by
  refine confined_changing (fun {context state args reply after} h => ?_)
    (fun {context state args failure} h => ?_)
  · split at h
    · cases h
    · cases h; exact imported_load _ state
  · split at h
    · cases h; exact .deliberate rfl
    · cases h

/-- A new item asks the store, having noted so, and reports what the store says. -/
theorem newItem_run (context : Context) {args : List Text} {path : Text}
    (h : flagOrPositional "-Path" itemFlags args = some path) (state : State) :
    ∃ source message, (newItem.handler context args).run state =
      ⟨(storeReply (context.items.create path (itemType args))).map Answer.reply, state,
        [⟨.debug, source, message⟩]⟩ := by
  unfold newItem
  dsimp only
  rw [h]
  dsimp only
  generalize storeReply (context.items.create path (itemType args)) = result
  cases result <;> exact ⟨_, _, rfl⟩

theorem keeps_newItem : Keeps newItem := by
  refine keeps_of_unchanged (by decide) fun context args state => ?_
  cases hp : flagOrPositional "-Path" itemFlags args with
  | none =>
    unfold newItem
    dsimp only
    rw [hp]
    exact Or.inr ⟨_, rfl, .deliberate rfl, rfl⟩
  | some path =>
    obtain ⟨source, message, hr⟩ := newItem_run context hp state
    rw [hr]
    cases hs : context.items.create path (itemType args) with
    | error fault => exact Or.inr ⟨.fault fault, rfl, .store (.create hs), rfl⟩
    | ok words => exact Or.inl ⟨_, rfl, rfl⟩

/-- A command with a source and a destination, which asks the store. -/
theorem keeps_transfer {description : Description} {name : Text}
    (operation : ItemStore → Text → Text → Except Fault Text) (hk : description.key ∉ writers)
    (hs : ∀ {store source destination fault},
      operation store source destination = .error fault → StoreFails store fault) :
    Keeps ⟨description, Handler.reading fun context _ args => do
      let (source, destination) ← operands name args
      storeReply (operation context.items source destination)⟩ := by
  refine keeps_of_unchanged hk (confined_reading fun {context state args failure} h => ?_)
  rcases bind_error_cases h with h | ⟨⟨source, destination⟩, -, h⟩
  · obtain ⟨parameter, detail, rfl⟩ := operands_error h
    exact .deliberate rfl
  · obtain ⟨fault, rfl, hf⟩ := storeReply_error h
    exact .store (hs hf)

theorem keeps_copyItem : Keeps copyItem := keeps_transfer ItemStore.copy (by decide) .copy

theorem keeps_moveItem : Keeps moveItem := keeps_transfer ItemStore.move (by decide) .move

theorem keeps_removeItem : Keeps removeItem := by
  refine keeps_of_unchanged (by decide) (confined_reading fun {context state args failure} h => ?_)
  split at h
  · cases h; exact .deliberate rfl
  · obtain ⟨fault, rfl, hs⟩ := storeReply_error h
    exact .store (.remove hs)

theorem keeps_getContent : Keeps getContent := by
  refine keeps_of_deliberate (by decide) fun {context state args failure} h => ?_
  split at h <;> cases h
  rfl

theorem keeps_testPath : Keeps testPath := by
  refine keeps_of_deliberate (by decide) fun {context state args failure} h => ?_
  split at h <;> cases h
  rfl

theorem keeps_getHelp : Keeps getHelp := by
  refine keeps_of_unchanged (by decide) (confined_reading fun {context state args failure} h => ?_)
  split at h
  · cases h
  · next topic _ =>
    rcases bind_error_cases h with h | ⟨_, -, h⟩
    · obtain ⟨⟨kind, operation, rfl⟩, hne⟩ := topicDescription_error h
      refine .untyped fun ht => ?_
      obtain ⟨text, htext⟩ := resolveAlias_textual ht topic
      exact hne text htext
    · cases h

theorem keeps_getRandom : Keeps getRandom := by
  refine keeps_of_deliberate (by decide) fun {context state args failure} h => ?_
  rcases bind_error_cases h with h | ⟨_, -, h⟩
  · rcases randomBetween_error h with ⟨raw, rfl, -⟩ | ⟨least, greatest, rfl, -⟩ <;> rfl
  · cases h

theorem keeps_whoami : Keeps whoami := by
  refine keeps_of_unchanged (by decide) (confined_reading fun {context state args failure} h => ?_)
  split at h
  · cases h
  · next hne =>
    cases h
    refine .untyped fun ht => ?_
    obtain ⟨home, hhome⟩ := ht.home
    exact hne home hhome

theorem keeps_invokeWebRequest : Keeps invokeWebRequest := by
  refine keeps_of_unchanged (by decide) fun context args state => ?_
  unfold invokeWebRequest
  dsimp only
  cases hp : flagOrPositional "-Uri" ["-Uri", "-Method"] args with
  | none => exact Or.inr ⟨_, rfl, .deliberate rfl, rfl⟩
  | some address => exact Or.inl ⟨_, rfl, rfl⟩

/-! ### All commands -/

/-- The command always replies, and changes nothing. -/
inductive Replies : Command → Prop
  | intro {description : Description} (f : Context → State → List Text → Reply) :
      description.key ∉ writers →
      Replies ⟨description, Handler.reading fun context state args => .ok (f context state args)⟩

theorem keeps_of_replies {command : Command} (h : Replies command) : Keeps command := by
  cases h with
  | intro f hk => exact keeps_of_deliberate hk fun hf => by cases hf

/-- The commands that may fail. -/
def fallible : List Command :=
  [setLocation, getContent, testPath, newItem, copyItem, moveItem, removeItem, setVariable,
    importModule, getHelp, getRandom, whoami, invokeWebRequest]

/-- **A built-in command always replies, or is one of those that may fail.** -/
theorem builtin_cases {command : Command} (h : command ∈ builtins.flatMap (·.2)) :
    Replies command ∨ command ∈ fallible := by
  simp only [builtins, List.flatMap_cons, List.flatMap_nil, List.append_nil, List.mem_append] at h
  rcases h with h | h | h | h | h | h
  · simp only [locationCommands, List.mem_cons, List.not_mem_nil, or_false] at h
    rcases h with rfl | rfl | rfl | rfl | rfl
    · exact Or.inl (.intro _ (by decide))
    · exact Or.inr (by simp [fallible])
    · exact Or.inl (.intro _ (by decide))
    · exact Or.inr (by simp [fallible])
    · exact Or.inr (by simp [fallible])
  · refine Or.inr ?_
    simp only [itemCommands, List.mem_cons, List.not_mem_nil, or_false] at h
    rcases h with rfl | rfl | rfl | rfl <;> simp [fallible]
  · simp only [sessionCommands, List.mem_cons, List.not_mem_nil, or_false] at h
    rcases h with rfl | rfl | rfl | rfl | rfl | rfl | rfl
    · exact Or.inl (.intro _ (by decide))
    · exact Or.inr (by simp [fallible])
    · exact Or.inl (.intro _ (by decide))
    · exact Or.inr (by simp [fallible])
    · exact Or.inl (.intro _ (by decide))
    · exact Or.inl (.intro _ (by decide))
    · exact Or.inl (.intro _ (by decide))
  · simp only [systemCommands, List.mem_cons, List.not_mem_nil, or_false] at h
    rcases h with rfl | rfl | rfl | rfl | rfl | rfl | rfl | rfl | rfl | rfl | rfl
    · exact Or.inl (.intro _ (by decide))
    · exact Or.inl (.intro _ (by decide))
    · exact Or.inl (.intro _ (by decide))
    · exact Or.inl (.intro _ (by decide))
    · exact Or.inr (by simp [fallible])
    · exact Or.inl (.intro _ (by decide))
    · exact Or.inr (by simp [fallible])
    · exact Or.inl (.intro _ (by decide))
    · exact Or.inl (.intro _ (by decide))
    · exact Or.inl (.intro _ (by decide))
    · exact Or.inr (by simp [fallible])
  · refine Or.inl ?_
    simp only [pipelineCommands, List.mem_cons, List.not_mem_nil, or_false] at h
    rcases h with rfl | rfl | rfl | rfl | rfl | rfl | rfl <;> exact .intro _ (by decide)
  · simp only [networkCommands, List.mem_cons, List.not_mem_nil, or_false] at h
    rcases h with rfl | rfl
    · exact Or.inr (by simp [fallible])
    · exact Or.inl (.intro _ (by decide))

/-- **Every built-in command keeps to what its key allows.** -/
theorem builtin_keeps {command : Command} (h : command ∈ builtins.flatMap (·.2)) :
    Keeps command := by
  rcases builtin_cases h with h | h
  · exact keeps_of_replies h
  simp only [fallible, List.mem_cons, List.not_mem_nil, or_false] at h
  rcases h with rfl | rfl | rfl | rfl | rfl | rfl | rfl | rfl | rfl | rfl | rfl | rfl | rfl
  · exact keeps_setLocation
  · exact keeps_getContent
  · exact keeps_testPath
  · exact keeps_newItem
  · exact keeps_copyItem
  · exact keeps_moveItem
  · exact keeps_removeItem
  · exact keeps_setVariable
  · exact keeps_importModule
  · exact keeps_getHelp
  · exact keeps_getRandom
  · exact keeps_whoami
  · exact keeps_invokeWebRequest

/-! ### The default registry -/

theorem key_complete (command : Command) :
    command.complete.description.key = command.description.key := by
  unfold Command.complete Description.complete
  dsimp only
  split <;> rfl

theorem keeps_complete {command : Command} (h : Keeps command) : Keeps command.complete := by
  unfold Keeps at h ⊢
  rw [key_complete]
  exact h

theorem keeps_of_mem_default {command : Command}
    (h : command ∈ (builtins.flatMap (·.2)).map Command.complete) : Keeps command := by
  obtain ⟨builtin, hb, rfl⟩ := List.mem_map.mp h
  exact keeps_complete (builtin_keeps hb)

/-- What the registry finds has the name looked up and keeps to what its key allows. -/
def Keeping (registry : Registry) : Prop :=
  ∀ ⦃target : Value⦄ ⦃command : Command⦄, registry.lookup target = .ok (some command) →
    ∃ name, target = .str name ∧ command.description.key = Text.lower name ∧ Keeps command

/-- **The default registry is keeping.** -/
theorem default_keeping : Keeping .default := by
  intro target command h
  obtain ⟨name, rfl, hmem, hkey⟩ := lookup_ofList h
  exact ⟨name, rfl, hkey, keeps_of_mem_default hmem⟩

end CmdletShell.Proofs.Builtins.Changes
