import CmdletShell.Text.Blank

/-!
# Tables in plain text

A table is a line of headers, a line of dashes as long as each header, and a line for each row. Every
cell but one in the last column is filled up with spaces to the width of its column; longer cells
move the rest of the line. A line has no white space at its end.
-/

namespace CmdletShell.Layout

/-- A column: its header and its width. -/
structure Column where
  /-- The header. -/
  header : Text
  /-- The width to which cells are filled up. -/
  width : Int
  deriving DecidableEq, Repr

/-- The cells of a row under the columns: cells and columns without a partner are left out, and the
cell in the last column is not filled up. -/
def pad : List Column → List Text → List Text
  | [_], cell :: _ => [cell]
  | column :: columns, cell :: cells => Text.padRight column.width cell :: pad columns cells
  | _, _ => []

/-- A line of cells. -/
def line (columns : List Column) (cells : List Text) : Text :=
  Text.stripRight (Text.joinWith [' '] (pad columns cells))

/-- The lines of a table. -/
def tableLines (columns : List Column) (rows : List (List Text)) : List Text :=
  line columns (columns.map (·.header)) ::
    line columns (columns.map fun column => List.replicate column.header.length '-') ::
    rows.map (line columns)

/-- A table as text. -/
def table (columns : List Column) (rows : List (List Text)) : Text :=
  Text.joinWith ['\n'] (tableLines columns rows)

end CmdletShell.Layout
