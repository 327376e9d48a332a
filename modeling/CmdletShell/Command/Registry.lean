import CmdletShell.Command.Basic

/-!
# The registry of commands

Commands are found by name in any letter case. A command registered under a name that is taken
replaces the old one at its place.

* `Registry.register`, `Registry.get?`, `Registry.commands`, `Registry.names`.
* `Registry.dispatch`: runs the command of a name.
-/

namespace CmdletShell

/-- The commands under their lower case names, in order of first registration. -/
structure Registry where
  /-- The commands under their lower case names. -/
  entries : Fields Command := []

namespace Registry

/-- The registry without commands. -/
def empty : Registry := {}

/-- Adds a command, or replaces the one of its name. -/
def register (registry : Registry) (command : Command) : Registry :=
  ⟨registry.entries.put command.description.key command⟩

/-- The registry of a list of commands. -/
def ofList (commands : List Command) : Registry :=
  commands.foldl register empty

/-- The command of a name. -/
def get? (registry : Registry) (name : Text) : Option Command :=
  registry.entries.get? (Text.lower name)

/-- Whether a name has a command. -/
def contains (registry : Registry) (name : Text) : Bool :=
  (registry.get? name).isSome

/-- The count of commands. -/
def size (registry : Registry) : Nat :=
  registry.entries.length

/-- The commands in order of first registration. -/
def commands (registry : Registry) : List Command :=
  registry.entries.map (·.2)

/-- The names of the commands in code point order. -/
def names (registry : Registry) : List Text :=
  Text.sort (registry.commands.map (·.description.name))

/-- What is told about the command of a name. -/
def describe (registry : Registry) (name : Text) : Option Description :=
  (registry.get? name).map (·.description)

/-- The command that a target of an alias names; a target that is no text cannot be looked up. -/
def lookup (registry : Registry) (target : Value) : Except Fault (Option Command) :=
  match target with
  | .str name => .ok (registry.get? name)
  | value => .error (.missingOperation value.kind "lower")

/-- Runs the command of a name. `typed` is the word that a failure to find it reports. -/
def dispatch (registry : Registry) (context : Context) (target : Value) (args : List Text)
    (typed : Text) : Action Reply := do
  match ← Action.attempt (registry.lookup target) with
  | none => throw (.notRecognized typed)
  | some command =>
    match ← command.handler { context with describe := registry.describe } args with
    | .reply reply => return reply
    | .other value => throw (.wrongAnswer command.description.name value.kind)

end Registry

end CmdletShell
