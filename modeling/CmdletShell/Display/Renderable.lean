import CmdletShell.Display.Styled

/-!
# What is shown

Descriptions of all that is put on the screen: labels, trees, tables and panels. How they are drawn
is left to the terminal.
-/

namespace CmdletShell.Display

/-- A short text. -/
inductive Label where
  /-- Nothing. -/
  | none
  /-- A text with markup in square brackets. -/
  | markup (text : Text)
  /-- A styled text. -/
  | styled (text : StyledText)
  deriving Inhabited

namespace Label

/-- Whether there is nothing to see. -/
def isBlank : Label → Bool
  | .none => true
  | .markup text => text.isEmpty
  | .styled text => text.text.isEmpty

/-- The label, or nothing if there is nothing to see. -/
def orNone (label : Label) : Label :=
  if label.isBlank then .none else label

/-- A styled text without styles. -/
def plain (text : Text) : Label :=
  .styled (.plain text)

end Label

/-- A tree of labels. -/
inductive Tree where
  /-- A label with trees below it. -/
  | node (label : Label) (children : List Tree)
  deriving Inhabited

/-- A tree without others below it. -/
def Tree.leaf (label : Label) : Tree := .node label []

/-- A column of a table. -/
structure Column where
  /-- The header. -/
  header : Text
  /-- The style of the cells. -/
  style : Text := []
  /-- The side to which the cells are aligned. -/
  justify : Text := "left"
  /-- Whether the cells are kept on one line. -/
  noWrap : Bool := false
  /-- The cells. -/
  cells : List Label
  deriving Inhabited

/-- A table. -/
structure Table where
  /-- The title. -/
  title : Option Text := none
  /-- Whether the headers are shown. -/
  showHeader : Bool
  /-- Whether lines are drawn around the cells. -/
  boxed : Bool := false
  /-- The columns. -/
  columns : List Column
  deriving Inhabited

/-- What can stand in a panel. -/
inductive Body where
  /-- A label. -/
  | label (label : Label)
  /-- A tree. -/
  | tree (tree : Tree)
  /-- A table. -/
  | table (table : Table)
  deriving Inhabited

/-- A frame around a body. Settings may put any value in the place of a style. -/
structure Panel where
  /-- The body. -/
  body : Body
  /-- The title on the upper edge. -/
  title : Label
  /-- The title on the lower edge. -/
  subtitle : Value := .null
  /-- The style of the edge. -/
  borderStyle : Value
  /-- The side to which the title is aligned. -/
  titleAlign : Value
  /-- The room between edge and body. -/
  padding : Value := .arr [.int 0, .int 1]
  /-- The style of the body. -/
  style : Value := .str "none"
  /-- The side to which the subtitle is aligned. -/
  subtitleAlign : Value := .str "center"
  /-- Whether the panel takes the whole width. -/
  expand : Value
  deriving Inhabited

/-- What is put on the screen at once. -/
inductive Printed where
  /-- A label. -/
  | label (label : Label)
  /-- A panel. -/
  | panel (panel : Panel)
  /-- A table. -/
  | table (table : Table)
  /-- An empty line. -/
  | blank
  /-- The screen is cleared. -/
  | clear
  deriving Inhabited

/-- What is put on the screen step by step; each step may break, which ends the view. -/
abbrev View := List (Except Fault Printed)

end CmdletShell.Display
