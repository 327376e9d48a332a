import CmdletShell.Command.Reply
import CmdletShell.Line.Stage

/-!
# Running a pipeline

The stages of a line run one after another, and the output of the last one is the output of the
line, as plain text. Whatever ends a stage early ends the line.
-/

namespace CmdletShell.Line

variable {m : Type → Type} [Monad m]

/-- Runs numbered stages; `output` is the output so far. -/
def runStages (run : Nat → Text → m Reply) (output : Value) : List (Text × Nat) → m Value
  | [] => pure output
  | (stage, index) :: rest => do
    let reply ← run index stage
    runStages run reply.output rest

/-- Runs the stages of a line; `run` gets the number of a stage, from 0, and its text. -/
def runPipeline (run : Nat → Text → m Reply) (line : Text) : m Reply := do
  let output ← runStages run (.str []) (stages line).zipIdx
  return { output }

end CmdletShell.Line
