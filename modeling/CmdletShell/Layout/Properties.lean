import CmdletShell.Text.Blank

/-!
# Properties in plain text

Each pair is a line `Key : Value`, the keys filled up with spaces to the longest one. A line has no
white space at its end.
-/

namespace CmdletShell.Layout

/-- The length of the longest key. -/
def keyWidth (pairs : List (Text × Text)) : Nat :=
  pairs.foldl (fun width (key, _) => max width key.length) 0

/-- A line for a pair. -/
def propertyLine (width : Nat) (key value : Text) : Text :=
  Text.stripRight (Text.padRight width key ++ [' ', ':', ' '] ++ value)

/-- The lines of the pairs as text. -/
def properties (pairs : List (Text × Text)) : Text :=
  Text.joinWith ['\n'] (pairs.map fun (key, value) => propertyLine (keyWidth pairs) key value)

end CmdletShell.Layout
