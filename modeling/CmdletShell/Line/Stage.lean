import CmdletShell.Text.Blank

/-!
# Stages of a pipeline

A vertical bar with a space on either side separates the stages of a line; quotes do not protect it.

* `pieces`: what stands between the separators, read from the left.
* `stages`: the pieces without the white space around them.
* `isPipeline`: whether a separator occurs.
* `afterLastPipe`: what stands after the last separator, read from the right.
-/

namespace CmdletShell.Line

/-- The separator of stages. -/
def pipe : Text := [' ', '|', ' ']

/-- What stands between the separators, read from the left. -/
def pieces : Text → List Text
  | [] => [[]]
  | ' ' :: '|' :: ' ' :: rest => [] :: pieces rest
  | c :: rest =>
    match pieces rest with
    | [] => [[c]]
    | piece :: more => (c :: piece) :: more

/-- The stages of a line. -/
def stages (line : Text) : List Text :=
  (pieces line).map Text.strip

/-- Whether a separator occurs. -/
def isPipeline (line : Text) : Bool :=
  Text.includes pipe line

/-- What stands after the last separator, if there is one. -/
def afterLastPipe? : Text → Option Text
  | [] => none
  | c :: rest =>
    match afterLastPipe? rest with
    | some text => some text
    | none => if pipe.isPrefixOf (c :: rest) then some (rest.drop 2) else none

/-- What stands after the last separator; the whole line if there is none. -/
def afterLastPipe (line : Text) : Text :=
  (afterLastPipe? line).getD line

end CmdletShell.Line
