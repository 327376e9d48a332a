import CmdletShell.Failure
import CmdletShell.Text.Lines

/-!
# Markup

Texts between tags. Three signs are written as references, and some characters cannot be written at
all.

* `Markup.escape`: writes a text between tags.
* `Markup.readData`: the text that is written between tags.
* `promptFragments`: the prompt as styled pieces.
-/

namespace CmdletShell.Display

namespace Markup

/-- A character as it is written between tags. -/
def escapeChar (c : Char) : Text :=
  if c = '&' then "&amp;" else if c = '<' then "&lt;" else if c = '>' then "&gt;" else [c]

/-- A text as it is written between tags. -/
def escape (text : Text) : Text :=
  text.flatMap escapeChar

/-- Whether a character can be written: no control character but tab and line ends, and neither of
the last two code points of the basic plane. -/
def isWritable (c : Char) : Bool :=
  let n := c.toNat
  (32 ≤ n || n == 9 || n == 10 || n == 13) && n != 0xFFFE && n != 0xFFFF

/-- Resolves the references of a text in which no tag begins. -/
def resolve : Text → Except Fault Text
  | [] => .ok []
  | '&' :: 'a' :: 'm' :: 'p' :: ';' :: rest => (resolve rest).map ('&' :: ·)
  | '&' :: 'l' :: 't' :: ';' :: rest => (resolve rest).map ('<' :: ·)
  | '&' :: 'g' :: 't' :: ';' :: rest => (resolve rest).map ('>' :: ·)
  | c :: rest =>
    if c = '&' || c = '<' || !isWritable c then .error .unmarkable
    else (resolve rest).map (c :: ·)

/-- The text that is written between tags; all line ends become line feeds. -/
def readData (written : Text) : Except Fault Text :=
  resolve (Text.unifyLineEnds written)

end Markup

/-- A text between tags: the name of the tag, empty outside of all, and what is written. -/
structure Tagged where
  /-- The name of the tag. -/
  tag : Text
  /-- What is written. -/
  written : Text
  deriving DecidableEq, Repr, Inhabited

/-- The style of a tag. -/
def styleOfTag (tag : Text) : Text :=
  if tag.isEmpty then [] else "class:" ++ tag

/-- Texts between tags as styled pieces, of which none is empty. -/
def fragmentsOf (parts : List Tagged) : Except Fault (List (Text × Text)) := do
  let read ← parts.mapM fun part =>
    (Markup.readData part.written).map fun text => (styleOfTag part.tag, text)
  return read.filter fun (_, text) => !text.isEmpty

/-- The prompt between tags. -/
def promptParts (start location : Text) : List Tagged :=
  [⟨"prompt_prefix", Markup.escape start⟩, ⟨[], " "⟩, ⟨"path", Markup.escape location⟩,
    ⟨"prompt_symbol", Markup.escape ">"⟩, ⟨[], " "⟩]

/-- The text of a value that has to be one. -/
def textOf (operation : Text) : Value → Except Fault Text
  | .str text => .ok text
  | value => .error (.missingOperation value.kind operation)

/-- The prompt as styled pieces: what it begins with, and the location. -/
def promptFragments (start location : Value) : Except Fault (List (Text × Text)) := do
  let start ← textOf "replace" start
  let location ← textOf "replace" location
  fragmentsOf (promptParts start location)

end CmdletShell.Display
