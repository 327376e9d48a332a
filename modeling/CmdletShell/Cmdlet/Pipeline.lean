import CmdletShell.Command.Basic
import CmdletShell.Layout.Properties

/-!
# Commands for pipelines

These stages only acknowledge what they are asked for: the output of the stage before is not handed
on.
-/

namespace CmdletShell.Cmdlet

/-- A command of the pipeline group that always gives the same reply. -/
def acknowledging (name summary : Text) (reply : Reply) : Command where
  description := { name, summary, category := "Pipeline" }
  handler := .reading fun _ _ _ => .ok reply

/-- The commands for pipelines. -/
def pipelineCommands : List Command :=
  [acknowledging "Measure-Object" "Calculates numeric properties of objects"
      (Reply.text (Layout.properties
        [("Count", "1"), ("Average", ""), ("Sum", ""), ("Maximum", ""), ("Minimum", ""),
          ("Property", "")])),
    acknowledging "Select-Object" "Selects object properties"
      (Reply.text "Select-Object pipeline operation completed."),
    acknowledging "Where-Object" "Filters objects" (Reply.text "Where-Object filter applied."),
    acknowledging "Sort-Object" "Sorts objects by property" (Reply.text "Sort-Object completed."),
    acknowledging "Format-Table" "Formats output as a table" (Reply.table "Format-Table applied."),
    acknowledging "Format-List" "Formats output as a list" (Reply.text "Format-List applied."),
    acknowledging "Out-String" "Converts objects to strings"
      (Reply.text "Out-String conversion completed.")]

end CmdletShell.Cmdlet
