import CmdletShell.Text.Basic

/-!
# White space

White space is a fixed set of code points: the line and field controls, the space, and the spaces
of other scripts.

* `isBlank`: the set.
* `strip`, `stripLeft`, `stripRight`: a text without the white space at its ends.
* `words`: the longest runs without white space.
-/

namespace CmdletShell.Text

/-- White space. -/
def isBlank (c : Char) : Bool :=
  let n := c.toNat
  (9 ≤ n && n ≤ 13) || (28 ≤ n && n ≤ 32) || n == 133 || n == 160 || n == 5760 ||
    (8192 ≤ n && n ≤ 8202) || n == 8232 || n == 8233 || n == 8239 || n == 8287 || n == 12288

/-- The text without the white space at its start. -/
def stripLeft (text : Text) : Text :=
  dropLeft isBlank text

/-- The text without the white space at its end. -/
def stripRight (text : Text) : Text :=
  dropRight isBlank text

/-- The text without the white space at its ends. -/
def strip (text : Text) : Text :=
  trim isBlank text

/-- Whether the text has no character or only white space. -/
def isBlankText (text : Text) : Bool :=
  text.all isBlank

/-- The longest runs without white space, in order. -/
def words : Text → List Text
  | [] => []
  | c :: rest =>
    if isBlank c then words rest
    else match rest.head?, words rest with
      | some d, word :: more => if isBlank d then [c] :: word :: more else (c :: word) :: more
      | _, more => [c] :: more

@[simp] theorem isBlank_space : isBlank ' ' = true := rfl

@[simp] theorem words_nil : words [] = [] := rfl

theorem words_of_isBlank {c : Char} (h : isBlank c = true) (rest : Text) :
    words (c :: rest) = words rest := by
  rw [words, if_pos h]

end CmdletShell.Text
