import CmdletShell.Display.Colour
import CmdletShell.Failure
import CmdletShell.Settings.Basic
import CmdletShell.Text.Blank

/-!
# The style sheet of the prompt

The styles of prompt and completion menu make up one sheet. Each of its definitions is a list of
words: attributes, and colours with or without the ground that they are for.

* `isStyleWord`: the words of a definition.
* `Settings.styleSheet`: the sheet, if all of it is in order.
-/

namespace CmdletShell

namespace Display

/-- The words for attributes. -/
def attributeWords : List Text :=
  ["noinherit", "bold", "nobold", "italic", "noitalic", "underline", "nounderline", "strike",
    "nostrike", "blink", "noblink", "reverse", "noreverse", "hidden", "nohidden", "dim", "nodim",
    "roman", "sans", "mono"]

/-- Whether a text names a colour: a name, a number of three or six digits after a hash, or the
default. -/
def isColour (text : Text) : Bool :=
  terminalColours.contains text || namedColours.contains (Text.lower text) ||
    match text with
    | '#' :: number => terminalColours.contains number || number.length == 6 || number.length == 3
    | _ => text == [] || text == "default"

/-- Whether a word may stand in a definition. -/
def isStyleWord (word : Text) : Bool :=
  let border : Text := "border:"
  let ground : Text := "bg:"
  let figure : Text := "fg:"
  if attributeWords.contains word || border.isPrefixOf word then true
  else if word.head? = some '[' && word.getLast? = some ']' then true
  else if ground.isPrefixOf word || figure.isPrefixOf word then isColour (word.drop 3)
  else isColour word

/-- Whether a character may stand in the name of a definition. -/
def isStyleNameChar (c : Char) : Bool :=
  ('a' ≤ c && c ≤ 'z') || ('0' ≤ c && c ≤ '9') || c = '.' || c = '_' || c = '-' || Text.isBlank c

/-- Refuses a definition that is not in order. -/
def checkStyle (entry : Text × Value) : Except Fault Unit :=
  let (name, definition) := entry
  if !name.all isStyleNameChar then .error .wrongName
  else match definition with
    | .str text =>
      if (Text.words text).all isStyleWord then .ok () else .error .wrongValue
    | .arr _ | .obj _ => .error (.missingOperation definition.kind "split")
    | _ => .error .wrongKind

/-- The fields of a value that has to be an object to be spread out. -/
def spread : Value → Except Fault (Fields Value)
  | .obj fields => .ok fields
  | _ => .error .wrongKind

end Display

open Display in
/-- The styles of the prompt and, where they differ, those of the completion menu. -/
def Settings.styleSheet (settings : Settings) : Except Fault (Fields Value) := do
  let sheet := Fields.update (← spread (settings .promptStyles))
    (← spread (settings .completionStyles))
  sheet.forM checkStyle
  return sheet

end CmdletShell
