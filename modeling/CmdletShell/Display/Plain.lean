import CmdletShell.Display.Renderable
import CmdletShell.Layout.Table

/-!
# What is shown, in plain lines

A terminal without colours and frames shows the lines of labels, trees, tables and panels.

* `visible`: a text with markup in square brackets, without its tags.
* `Printed.lines`: the lines of what is put on the screen at once.
-/

namespace CmdletShell.Display

/-- Whether a tag stands at the start of what follows an opening bracket. -/
def isTag : Text → Bool
  | [] => false
  | c :: rest =>
    (c.isLower || c = '/' || c = '#' || c = '@') && (rest.takeWhile (· != '[')).contains ']'

/-- The text that is left of a markup without its tags, from inside a tag or outside. -/
def visibleFrom : Bool → Text → Text
  | _, [] => []
  | true, c :: rest => visibleFrom (c != ']') rest
  | false, c :: rest =>
    if c = '[' && isTag rest then visibleFrom true rest else c :: visibleFrom false rest

/-- A text with markup in square brackets, without its tags. -/
def visible (markup : Text) : Text :=
  visibleFrom false markup

/-- The text of a label. -/
def Label.shown : Label → Text
  | .none => []
  | .markup text => visible text
  | .styled text => text.text

/-- The lines of a label. -/
def Label.lines (label : Label) : List Text :=
  Text.splitAt '\n' label.shown

mutual

/-- The lines of a tree: what is below a label is moved to the right. -/
def Tree.lines : Tree → List Text
  | .node label children => label.lines ++ (Tree.allLines children).map ([' ', ' '] ++ ·)

/-- The lines of trees. -/
def Tree.allLines : List Tree → List Text
  | [] => []
  | tree :: rest => tree.lines ++ Tree.allLines rest

end

namespace Table

/-- The text of a cell, which is on one line. -/
def cellText (label : Label) : Text :=
  Text.replace '\n' ' ' label.shown

/-- The width of a column: the length of its longest cell. -/
def columnWidth (column : Column) : Nat :=
  column.cells.foldl (fun width cell => max width (cellText cell).length) column.header.length

/-- A column as wide as its longest cell. -/
def layoutColumn (column : Column) : Layout.Column :=
  ⟨column.header, columnWidth column⟩

/-- The rows of a table. -/
def rows (table : Table) : List (List Text) :=
  let height := (table.columns.map (·.cells.length)).foldl max 0
  (List.range height).map fun n =>
    table.columns.map fun column => cellText (column.cells.getD n .none)

/-- The lines of a table: its title, its headers if they are shown, and its rows. -/
def lines (table : Table) : List Text :=
  let columns := table.columns.map layoutColumn
  let body :=
    if table.showHeader then Layout.tableLines columns table.rows
    else table.rows.map (Layout.line columns)
  match table.title with
  | some title => title :: body
  | none => body

end Table

/-- The lines of a body. -/
def Body.lines : Body → List Text
  | .label text => text.lines
  | .tree root => root.lines
  | .table grid => grid.lines

/-- The lines of a panel: its title, if it has one, and its body. -/
def Panel.lines (panel : Panel) : List Text :=
  (if panel.title.isBlank then [] else panel.title.lines) ++ panel.body.lines

/-- What clears the screen of a terminal. -/
def clearSequence : Text := "\x1b[2J\x1b[H"

/-- The lines of what is put on the screen at once. -/
def Printed.lines : Printed → List Text
  | .label text => text.lines
  | .panel frame => frame.lines
  | .table grid => grid.lines
  | .blank => [[]]
  | .clear => [clearSequence]

end CmdletShell.Display
