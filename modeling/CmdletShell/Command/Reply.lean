import CmdletShell.Json.Value

/-!
# Replies

What a command puts out, and how it is meant to be shown.
-/

namespace CmdletShell

/-- How an output is meant to be shown. -/
inductive Shape where
  /-- Plain text. -/
  | text
  /-- Properties of one object. -/
  | object
  /-- A table. -/
  | table
  deriving DecidableEq, Repr, Inhabited

namespace Shape

/-- The name of a shape. -/
def name : Shape → Text
  | .text => "text"
  | .object => "object"
  | .table => "table"

/-- The shapes. -/
def all : List Shape := [.text, .object, .table]

/-- The shape of a name. -/
def ofName? (name : Text) : Option Shape :=
  all.find? (·.name = name)

end Shape

/-- What a command puts out. The output is a text, or the value that stands for the location. -/
structure Reply where
  /-- The output. -/
  output : Value
  /-- How it is meant to be shown. -/
  shape : Shape := .text
  deriving Inhabited

/-- A reply of plain text. -/
def Reply.text (text : Text) : Reply :=
  ⟨.str text, .text⟩

/-- A reply that is a table. -/
def Reply.table (text : Text) : Reply :=
  ⟨.str text, .table⟩

/-- A reply with the properties of an object. -/
def Reply.object (text : Text) : Reply :=
  ⟨.str text, .object⟩

end CmdletShell
