import CmdletShell.Interpreter.Basic
import CmdletShell.Text.Similarity

/-!
# Suggestions

The names that are most similar to a word that names no command, at most three.
-/

namespace CmdletShell.Suggestion

/-- The least similarity of a suggestion. -/
def threshold : Text.Score := ⟨3, 5⟩

/-- Whether a scored name does not come after another: by its score, then by its text, both from
the greatest down. -/
def le (a b : Text.Score × Text) : Bool :=
  a.1.ge b.1 && (!b.1.ge a.1 || Text.le b.2 a.2)

/-- The candidates most similar to a word, at most `count`, best first. -/
def closest (count : Nat) (word : Text) (candidates : List Text) : List Text :=
  let scored := candidates.map fun name => (Text.similarity name word, name)
  let near := scored.filter fun entry => entry.1.ge threshold
  ((near.mergeSort le).take count).map (·.2)

/-- The names under their lower case; of names that differ in case only, the last one. -/
def lowered (names : List Text) : Fields Text :=
  Fields.update [] (names.map fun name => (Text.lower name, name))

/-- The names most similar to a word, whatever their letter case. -/
def among (names : List Text) (word : Text) : List Text :=
  let table := lowered names
  (closest 3 (Text.lower word) table.names).filterMap table.get?

end CmdletShell.Suggestion

namespace CmdletShell

/-- The names of commands and aliases most similar to a word. -/
def Interpreter.suggest (interpreter : Interpreter) (word : Text) : List Text :=
  Suggestion.among interpreter.commandNames word

end CmdletShell
