import CmdletShell.Json.Value
import CmdletShell.Text.Quoted

/-!
# Values as shown to the user

* `Value.show`: the text of a value in a message or a listing. A text is shown as it is; inside a
  list or an object it is shown in quotes.
-/

namespace CmdletShell.Value

/-- The shown form of a value that is no list, object or text. -/
def showAtom : Value → Text
  | .null => "None"
  | .bool true => "True"
  | .bool false => "False"
  | .int n => Text.writeInteger n
  | .float x => x.write
  | _ => []

mutual

/-- The form of a value inside a list or an object. -/
def showInside : Value → Text
  | .str s => Text.quoted s
  | .arr items => '[' :: showItems items ++ [']']
  | .obj fields => '\x7b' :: showFields fields ++ ['\x7d']
  | .null => showAtom .null
  | .bool b => showAtom (.bool b)
  | .int n => showAtom (.int n)
  | .float x => showAtom (.float x)

/-- The forms of the items with commas between them. -/
def showItems : List Value → Text
  | [] => []
  | [item] => showInside item
  | item :: next :: rest => showInside item ++ [',', ' '] ++ showItems (next :: rest)

/-- The forms of the fields with commas between them. -/
def showFields : List (Text × Value) → Text
  | [] => []
  | [(name, value)] => Text.quoted name ++ [':', ' '] ++ showInside value
  | (name, value) :: next :: rest =>
    Text.quoted name ++ [':', ' '] ++ showInside value ++ [',', ' '] ++ showFields (next :: rest)

end

/-- The text of a value as shown to the user. -/
def «show» : Value → Text
  | .str s => s
  | value => showInside value

end CmdletShell.Value
