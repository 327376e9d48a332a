import CmdletShell.Layout.Table
import CmdletShell.Proofs.Lines.Trimmed
import CmdletShell.Proofs.Paths.Segments

/-!
# Tables read by their columns

A table in plain text is read back by cutting its lines where the columns start (`cut`). If headers
and cells fit into their columns (`Fits`), that gives the headers, a run of dashes for each of them,
and the cells of each row (`table_readBack`).

Trimming a line takes nothing away that cutting it gives: white space at its end is white space at
the end of a piece (`cut_append_of_blank`). So a line may be cut before it is trimmed, where each
piece is a cell with what it was filled up with, and the space after it (`cut_joinWith_pad`).
-/

namespace CmdletShell.Proofs.Layouts.Tables

open CmdletShell.Layout CmdletShell.Text
open CmdletShell.Proofs.Lines.Strip CmdletShell.Proofs.Lines.Joined
open CmdletShell.Proofs.Lines.Trimmed CmdletShell.Proofs.Paths.Segments

variable {text tail line cell : Text} {texts cells : List Text} {column : Column}
variable {columns : List Column} {rows : List (List Text)}

/-- A text without white space at its end. -/
def Ended (text : Text) : Prop := ∀ c ∈ text.getLast?, isBlank c = false

instance (text : Text) : Decidable (Ended text) :=
  decidable_of_iff (text.getLast?.any isBlank = false) (Option.any_eq_false isBlank text.getLast?)

/-- A text that a column of a width holds if other columns follow. -/
def Narrow (column : Column) (cell : Text) : Prop := (cell.length : Int) ≤ column.width

instance (column : Column) (cell : Text) : Decidable (Narrow column cell) := by
  unfold Narrow; infer_instance

/-- **Cells that fit into their columns**: one for each column, on one line, without white space at
the end, and not longer than the column is wide, the last one apart. -/
structure Fits (columns : List Column) (cells : List Text) : Prop where
  length : cells.length = columns.length
  oneLine : ∀ cell ∈ cells, '\n' ∉ cell
  ended : ∀ cell ∈ cells, Ended cell
  narrow : ∀ entry ∈ (columns.zip cells).dropLast, Narrow entry.1 entry.2

instance (columns : List Column) (cells : List Text) : Decidable (Fits columns cells) :=
  decidable_of_iff (cells.length = columns.length ∧ (∀ cell ∈ cells, '\n' ∉ cell) ∧
      (∀ cell ∈ cells, Ended cell) ∧ ∀ entry ∈ (columns.zip cells).dropLast,
        Narrow entry.1 entry.2)
    ⟨fun h => ⟨h.1, h.2.1, h.2.2.1, h.2.2.2⟩, fun h => ⟨h.length, h.oneLine, h.ended, h.narrow⟩⟩

/-- **A line cut by the columns**: from each start to the next one, which is the width of the column
and one space away, and from the last start to the end. The pieces are trimmed at their ends. -/
def cut : List Column → Text → List Text
  | [], _ => []
  | [_], line => [stripRight line]
  | column :: next :: columns, line =>
    stripRight (line.take (column.width.toNat + 1)) ::
      cut (next :: columns) (line.drop (column.width.toNat + 1))

/-- A run of dashes as long as each header. -/
def rule (columns : List Column) : List Text :=
  columns.map fun column => List.replicate column.header.length '-'

/-! ### Ends -/

theorem ended_stripRight (text : Text) : Ended (stripRight text) := by
  intro c hc
  have hne : text.rdropWhile isBlank ≠ [] := List.ne_nil_of_mem (List.mem_of_getLast? hc)
  have hlast := List.rdropWhile_last_not isBlank text hne
  have heq : (text.rdropWhile isBlank).getLast hne = c :=
    Option.some.inj ((List.getLast?_eq_some_getLast hne).symm.trans hc)
  rw [heq] at hlast
  simpa using hlast

theorem stripRight_of_ended (h : Ended text) : stripRight text = text := by
  have hkeep : text.rdropWhile isBlank = text := by
    rw [List.rdropWhile_eq_self_iff]
    intro hne
    have hlast := h _ (List.getLast?_eq_some_getLast hne)
    simpa using hlast
  exact hkeep

theorem strip_replicate (n : Nat) : strip (List.replicate n ' ') = [] := by
  rw [strip_eq_nil_iff]
  intro c hc
  rw [List.eq_of_mem_replicate hc]
  rfl

theorem strip_of_mem (h : strip tail = []) (hm : ∀ c ∈ text, c ∈ tail) : strip text = [] := by
  rw [strip_eq_nil_iff] at h ⊢
  exact fun c hc => h c (hm c hc)

/-- A cell comes back when what it is filled up with is trimmed. -/
theorem stripRight_padRight (h : Ended cell) (width : Int) (n : Nat) :
    stripRight (padRight width cell ++ List.replicate n ' ') = cell := by
  have hfill := strip_replicate (width.toNat - cell.length)
  rw [stripRight_append_of_blank (strip_replicate n), padRight, stripRight_append_of_blank hfill,
    stripRight_of_ended h]

theorem length_padRight (h : Narrow column cell) :
    (padRight column.width cell).length = column.width.toNat := by
  unfold Narrow at h
  rw [padRight, List.length_append, List.length_replicate]
  omega

/-! ### Cutting -/

/-- **White space at the end of a line does not count.** -/
theorem cut_append_of_blank : ∀ (columns : List Column) (line : Text) {tail : Text},
    strip tail = [] → cut columns (line ++ tail) = cut columns line
  | [], _, _, _ => rfl
  | [column], line, tail, h => by
    rw [cut, cut, stripRight_append_of_blank h]
  | column :: next :: columns, line, tail, h => by
    have hfirst : strip (tail.take (column.width.toNat + 1 - line.length)) = [] :=
      strip_of_mem h fun c => List.mem_of_mem_take
    have hrest : strip (tail.drop (column.width.toNat + 1 - line.length)) = [] :=
      strip_of_mem h fun c => List.mem_of_mem_drop
    rw [cut, cut, List.take_append, List.drop_append, stripRight_append_of_blank hfirst,
      cut_append_of_blank (next :: columns) _ hrest]

theorem cut_stripRight (columns : List Column) (line : Text) :
    cut columns (stripRight line) = cut columns line := by
  obtain ⟨tail, hline, hblank⟩ := exists_stripRight line
  conv_rhs => rw [hline]
  rw [cut_append_of_blank columns _ hblank]

theorem pad_ne_nil (columns : List Column) (cells : List Text) (next : Column) (cell : Text) :
    pad (next :: columns) (cell :: cells) ≠ [] := by
  cases columns <;> simp [pad]

theorem Fits.rest {next : Column} (h : Fits (column :: next :: columns) (cell :: cells)) :
    Fits (next :: columns) cells := by
  obtain ⟨hlen, hline, hend, hnarrow⟩ := h
  have hlen' : cells.length = (next :: columns).length := by simpa using hlen
  refine ⟨hlen', fun c hc => hline c (.tail _ hc), fun c hc => hend c (.tail _ hc),
    fun entry he => hnarrow entry ?_⟩
  obtain ⟨second, rest, rfl⟩ := List.exists_cons_of_length_eq_add_one hlen'
  exact List.mem_cons_of_mem _ he

/-- **The cells come back from a line that is not trimmed yet.** -/
theorem cut_joinWith_pad : ∀ {columns : List Column} {cells : List Text}, columns ≠ [] →
    Fits columns cells → cut columns (joinWith [' '] (pad columns cells)) = cells
  | [], _, hne, _ => absurd rfl hne
  | [column], cells, _, h => by
    obtain ⟨cell, rfl⟩ := List.length_eq_one_iff.mp h.length
    rw [pad, joinWith_singleton, cut, stripRight_of_ended (h.ended cell (by simp))]
  | column :: next :: columns, cells, _, h => by
    obtain ⟨cell, rest, rfl⟩ := List.exists_cons_of_length_eq_add_one h.length
    obtain ⟨second, more, rfl⟩ := List.exists_cons_of_length_eq_add_one h.rest.length
    have hne := pad_ne_nil columns more next second
    have hnarrow : Narrow column cell := h.narrow (column, cell) (by simp)
    have hlen : (padRight column.width cell ++ [' ']).length = column.width.toNat + 1 := by
      rw [List.length_append, length_padRight hnarrow, List.length_singleton]
    have hcell : stripRight (padRight column.width cell ++ [' ']) = cell :=
      stripRight_padRight (h.ended cell (by simp)) column.width 1
    rw [pad, joinWith_cons _ _ hne, cut, List.take_left' hlen, List.drop_left' hlen, hcell,
      cut_joinWith_pad (List.cons_ne_nil _ _) h.rest]
    · simp

theorem cut_line (hne : columns ≠ []) (h : Fits columns cells) :
    cut columns (Layout.line columns cells) = cells := by
  rw [Layout.line, cut_stripRight, cut_joinWith_pad hne h]

/-! ### Lines -/

theorem not_mem_joinWith {c : Char} (hs : c ∉ text) (h : ∀ piece ∈ texts, c ∉ piece) :
    c ∉ joinWith text texts := by
  induction texts with
  | nil => exact List.not_mem_nil
  | cons first rest ih =>
    have hfirst := h first List.mem_cons_self
    by_cases hr : rest = []
    · rw [hr, joinWith_singleton]
      exact hfirst
    · have hrest := ih fun piece hp => h piece (.tail _ hp)
      rw [joinWith_cons _ _ hr]
      simp [hfirst, hs, hrest]

theorem not_mem_pad {c : Char} (hc : c ≠ ' ') (columns : List Column) (cells : List Text)
    (h : ∀ cell ∈ cells, c ∉ cell) : ∀ piece ∈ pad columns cells, c ∉ piece := by
  fun_induction pad columns cells with
  | case1 column cell rest =>
    intro piece hp
    rw [List.mem_singleton.mp hp]
    exact h cell List.mem_cons_self
  | case2 column columns cell rest _ ih =>
    rw [List.forall_mem_cons]
    refine ⟨fun hmem => ?_, ih fun cell hm => h cell (.tail _ hm)⟩
    rcases List.mem_append.mp hmem with hmem | hmem
    · exact h cell List.mem_cons_self hmem
    · exact hc (List.eq_of_mem_replicate hmem)
  | case3 => exact fun _ hp => absurd hp List.not_mem_nil

/-- Cells on one line give one line. -/
theorem not_mem_line (columns : List Column) (h : ∀ cell ∈ cells, '\n' ∉ cell) :
    '\n' ∉ Layout.line columns cells := by
  have hjoined : '\n' ∉ joinWith [' '] (pad columns cells) :=
    not_mem_joinWith (by decide) (not_mem_pad (by decide) columns cells h)
  exact fun hmem => hjoined ((List.rdropWhile_prefix _ _).subset hmem)

theorem splitAt_joinWith {c : Char} (hne : texts ≠ []) (h : ∀ text ∈ texts, c ∉ text) :
    Text.splitAt c (joinWith [c] texts) = texts := by
  rw [splitAt_eq_splitOn]
  exact List.splitOn_intercalate c h hne

theorem rule_fits (h : Fits columns (columns.map (·.header))) : Fits columns (rule columns) := by
  have hdash : ∀ cell ∈ rule columns, ∀ c ∈ cell, c = '-' := by
    intro cell hcell c hc
    obtain ⟨column, -, rfl⟩ := List.mem_map.mp hcell
    exact List.eq_of_mem_replicate hc
  refine ⟨List.length_map _, fun cell hcell hmem => ?_, fun cell hcell c hc => ?_,
    fun entry he => ?_⟩
  · exact absurd (hdash cell hcell _ hmem) (by decide)
  · rw [hdash cell hcell c (List.mem_of_getLast? hc)]
    rfl
  · have hnarrow := h.narrow
    rw [List.zip_map_right, ← List.map_dropLast] at hnarrow
    rw [rule, List.zip_map_right, ← List.map_dropLast] at he
    obtain ⟨⟨column, other⟩, hpair, rfl⟩ := List.mem_map.mp he
    have hheader := hnarrow _ (List.mem_map_of_mem hpair)
    unfold Narrow at hheader ⊢
    simpa using hheader

/-- **A table is read back by its columns**: it has a line for the headers, one for the rule and one
for each row, none of which ends in white space, and cutting the lines gives the cells. -/
theorem table_readBack (columns : List Column) (rows : List (List Text)) (hne : columns ≠ [])
    (hheaders : Fits columns (columns.map (·.header))) (hrows : ∀ row ∈ rows, Fits columns row) :
    (Text.splitAt '\n' (table columns rows)).length = rows.length + 2 ∧
    (∀ line ∈ Text.splitAt '\n' (table columns rows), Ended line) ∧
    (Text.splitAt '\n' (table columns rows)).map (cut columns) =
      columns.map (·.header) :: rule columns :: rows := by
  have hall : ∀ row ∈ columns.map (·.header) :: rule columns :: rows, Fits columns row := by
    simp only [List.forall_mem_cons]
    exact ⟨hheaders, rule_fits hheaders, hrows⟩
  have hlines : tableLines columns rows =
      (columns.map (·.header) :: rule columns :: rows).map (Layout.line columns) := rfl
  have hsplit : Text.splitAt '\n' (table columns rows) = tableLines columns rows := by
    rw [table]
    refine splitAt_joinWith (List.cons_ne_nil _ _) fun text htext => ?_
    rw [hlines] at htext
    obtain ⟨row, hrow, rfl⟩ := List.mem_map.mp htext
    exact not_mem_line columns (hall row hrow).oneLine
  rw [hsplit, hlines]
  refine ⟨by simp, fun text htext => ?_, ?_⟩
  · obtain ⟨row, -, rfl⟩ := List.mem_map.mp htext
    exact ended_stripRight _
  · rw [List.map_map]
    conv_rhs => rw [← List.map_id (columns.map (·.header) :: rule columns :: rows)]
    exact List.map_congr_left fun row hrow => cut_line hne (hall row hrow)

/-- Three columns, of which the last one has no width. -/
def threeColumns : List Column := [⟨"Id", 4⟩, ⟨"Name", 6⟩, ⟨"Note", 0⟩]

/-- Rows with empty cells at both ends, a cell as wide as its column, and spaces inside. -/
def sparseRows : List (List Text) := [["1234", "a  b", ""], ["", "", " long: x y"], ["", "", ""]]

/-- A table with empty cells is read back, a line without characters among its lines. -/
theorem table_readBack_sparse :
    threeColumns ≠ [] ∧ Fits threeColumns (threeColumns.map (·.header)) ∧
    (∀ row ∈ sparseRows, Fits threeColumns row) ∧
    Text.splitAt '\n' (table threeColumns sparseRows) =
      ["Id   Name   Note", "--   ----   ----", "1234 a  b", "             long: x y", ""] ∧
    (Text.splitAt '\n' (table threeColumns sparseRows)).map (cut threeColumns) =
      ([["Id", "Name", "Note"], ["--", "----", "----"]] : List (List Text)) ++ sparseRows := by
  have hne : threeColumns ≠ [] := by decide
  have hheaders : Fits threeColumns (threeColumns.map (·.header)) := by decide
  have hrows : ∀ row ∈ sparseRows, Fits threeColumns row := by decide
  obtain ⟨-, -, hcells⟩ := table_readBack threeColumns sparseRows hne hheaders hrows
  exact ⟨hne, hheaders, hrows, by decide, hcells⟩

end CmdletShell.Proofs.Layouts.Tables
