import CmdletShell.Cmdlet.Item
import CmdletShell.Cmdlet.Location
import CmdletShell.Cmdlet.Network
import CmdletShell.Cmdlet.Pipeline
import CmdletShell.Cmdlet.Session
import CmdletShell.Cmdlet.System
import CmdletShell.Command.Registry

/-!
# The built-in commands

* `builtins`: the groups of built-in commands under their names.
* `Registry.default`: the registry of all of them.
-/

namespace CmdletShell.Cmdlet

/-- The groups of built-in commands under their names, in order of registration. -/
def builtins : Fields (List Command) :=
  [("location", locationCommands), ("items", itemCommands), ("session", sessionCommands),
    ("system", systemCommands), ("pipeline_ops", pipelineCommands), ("network", networkCommands)]

end CmdletShell.Cmdlet

namespace CmdletShell

/-- A command whose description has a usage. -/
def Command.complete (command : Command) : Command :=
  { command with description := command.description.complete }

/-- The registry of all built-in commands. -/
def Registry.default : Registry :=
  .ofList ((Cmdlet.builtins.flatMap (·.2)).map Command.complete)

end CmdletShell
