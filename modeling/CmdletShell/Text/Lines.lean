import CmdletShell.Text.Basic

/-!
# Lines

* `isLineEnd`: the characters that end a line; a carriage return and a line feed end one together.
* `lines`: the lines of a text without their ends; nothing stands after a last line end.
* `unifyLineEnds`: every carriage return, with a line feed after it or not, becomes a line feed.
-/

namespace CmdletShell.Text

/-- The characters that end a line. -/
def isLineEnd (c : Char) : Bool :=
  let n := c.toNat
  (10 ≤ n && n ≤ 13) || (28 ≤ n && n ≤ 30) || n == 133 || n == 8232 || n == 8233

/-- The lines of a text that continues a line `line`. -/
def linesAfter (line : Text) : Text → List Text
  | [] => if line.isEmpty then [] else [line]
  | '\r' :: '\n' :: rest => line :: linesAfter [] rest
  | c :: rest => if isLineEnd c then line :: linesAfter [] rest else linesAfter (line ++ [c]) rest

/-- The lines of a text without their ends. -/
def lines (text : Text) : List Text :=
  linesAfter [] text

/-- Every carriage return, with a line feed after it or not, becomes a line feed. -/
def unifyLineEnds : Text → Text
  | [] => []
  | '\r' :: '\n' :: rest => '\n' :: unifyLineEnds rest
  | '\r' :: rest => '\n' :: unifyLineEnds rest
  | c :: rest => c :: unifyLineEnds rest

end CmdletShell.Text
