import CmdletShell.Json.Value
import CmdletShell.Text.Quoted

/-!
# Writing documents

* `Json.write`: a value in one line.
* `Json.writeIndented`: a value over lines, two spaces deeper inside each list and object; an empty
  list or object stays on its line.

Either form writes the characters beyond ASCII as they are, or by number if `ascii` is set, those
above `FFFF` as two halves.
-/

namespace CmdletShell.Json

/-- A code unit by number. -/
def escapeUnit (n : Nat) : Text :=
  ['\\', 'u'] ++ Text.hex 4 n

/-- A character inside a string. -/
def writeChar (ascii : Bool) (c : Char) : Text :=
  let n := c.toNat
  if c = '"' || c = '\\' then ['\\', c]
  else if c = '\n' then ['\\', 'n']
  else if c = '\r' then ['\\', 'r']
  else if c = '\t' then ['\\', 't']
  else if n = 8 then ['\\', 'b']
  else if n = 12 then ['\\', 'f']
  else if n < 32 then escapeUnit n
  else if ascii && 126 < n then
    if n < 0x10000 then escapeUnit n
    else escapeUnit (0xD800 + (n - 0x10000) / 1024) ++ escapeUnit (0xDC00 + (n - 0x10000) % 1024)
  else [c]

/-- A string with its quotes. -/
def writeText (ascii : Bool) (text : Text) : Text :=
  '"' :: text.flatMap (writeChar ascii) ++ ['"']

/-- A floating point number. -/
def writeFloat : Binary64 → Text
  | .infinite false => "Infinity"
  | .infinite true => "-Infinity"
  | .notANumber => "NaN"
  | x => x.write

/-- How the parts of lists and objects are set apart. -/
structure Layout where
  /-- Whether characters beyond ASCII are written by number. -/
  ascii : Bool
  /-- What stands after an opening and before a closing bracket, by depth. -/
  margin : Nat → Text
  /-- What stands between two parts, by depth. -/
  between : Nat → Text

mutual

/-- The text of a value at a depth. -/
def writeAt (layout : Layout) (depth : Nat) : Value → Text
  | .null => "null"
  | .bool true => "true"
  | .bool false => "false"
  | .int n => Text.writeInteger n
  | .float x => writeFloat x
  | .str s => writeText layout.ascii s
  | .arr [] => "[]"
  | .arr (item :: rest) =>
    '[' :: layout.margin (depth + 1) ++ writeItems layout (depth + 1) (item :: rest) ++
      layout.margin depth ++ [']']
  | .obj [] => "\x7b\x7d"
  | .obj (field :: rest) =>
    '\x7b' :: layout.margin (depth + 1) ++ writeFields layout (depth + 1) (field :: rest) ++
      layout.margin depth ++ ['\x7d']

/-- The texts of the items of a list. -/
def writeItems (layout : Layout) (depth : Nat) : List Value → Text
  | [] => []
  | [item] => writeAt layout depth item
  | item :: next :: rest =>
    writeAt layout depth item ++ layout.between depth ++ writeItems layout depth (next :: rest)

/-- The texts of the fields of an object. -/
def writeFields (layout : Layout) (depth : Nat) : List (Text × Value) → Text
  | [] => []
  | [(name, value)] => writeText layout.ascii name ++ [':', ' '] ++ writeAt layout depth value
  | (name, value) :: next :: rest =>
    writeText layout.ascii name ++ [':', ' '] ++ writeAt layout depth value ++
      layout.between depth ++ writeFields layout depth (next :: rest)

end

/-- A new line that is two spaces deeper for each level. -/
def newLine (depth : Nat) : Text :=
  '\n' :: List.replicate (2 * depth) ' '

/-- A value in one line. -/
def write (ascii : Bool) (value : Value) : Text :=
  writeAt ⟨ascii, fun _ => [], fun _ => [',', ' ']⟩ 0 value

/-- A value over lines. -/
def writeIndented (ascii : Bool) (value : Value) : Text :=
  writeAt ⟨ascii, newLine, fun depth => ',' :: newLine depth⟩ 0 value

end CmdletShell.Json
