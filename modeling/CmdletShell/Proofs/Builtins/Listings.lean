import CmdletShell.Cmdlet.Session
import CmdletShell.Proofs.Builtins.Fields
import CmdletShell.Proofs.Builtins.Handlers
import CmdletShell.Proofs.Layouts.Tables
import CmdletShell.Proofs.Numbers.Integers
import CmdletShell.Proofs.Texts.Wildcards

/-!
# Listings of variables

`Get-Variable` lists the variables whose names a pattern covers, or all of them if no pattern is
asked for (`Selected`): under the headings each of them has one line, in the order of their first
assignment (`variables_listed`). So a variable that has just been assigned is listed once in the
listing of all, where it was before or else last.
-/

namespace CmdletShell.Proofs.Builtins.Listings

open CmdletShell.Argument CmdletShell.Cmdlet CmdletShell.Layout CmdletShell.Text
open CmdletShell.Proofs.Builtins.Fields CmdletShell.Proofs.Builtins.Handlers
open CmdletShell.Proofs.Layouts.Tables CmdletShell.Proofs.Lines.Trimmed
open CmdletShell.Proofs.Numbers.Decimals CmdletShell.Proofs.Numbers.Integers
open CmdletShell.Proofs.Texts.Wildcards

/-- **How a value is shown** in a listing. -/
inductive Shown : Value → Text → Prop
  /-- Nothing for null. -/
  | null : Shown .null []
  /-- A word for a list. -/
  | list {items} : Shown (.arr items) "[Object]"
  /-- The same word for an object. -/
  | object {fields} : Shown (.obj fields) "[Object]"
  /-- A text as it is. -/
  | text {text} : Shown (.str text) text
  /-- A word for yes. -/
  | yes : Shown (.bool true) "True"
  /-- A word for no. -/
  | no : Shown (.bool false) "False"
  /-- The numeral of a whole number. -/
  | whole {n text} : IsNumeral n text → Shown (.int n) text
  /-- The shortest decimal text of another number. -/
  | float {x} : Shown (.float x) x.write

/-- **A line of the listing**: three cells, the first two filled up. -/
def listed (name value option : Text) : Text :=
  padRight 15 name ++ ' ' :: (padRight 32 value ++ ' ' :: option)

/-- The line is that of a variable. -/
def IsLineOf (entry : Text × Value) (line : Text) : Prop :=
  ∃ shown, Shown entry.2 shown ∧ line = listed entry.1 (shown.take 30) "None"

/-- **The arguments ask for a pattern**: with a flag, or without one. -/
inductive Asked (args : List Text) (pattern : Text) : Prop
  /-- The flag gives it. -/
  | flag : pattern ≠ [] → flagValue "-Name" args = some pattern → Asked args pattern
  /-- The flag gives none, and it is the first loose text. -/
  | loose : pattern ≠ [] → (∀ value ∈ flagValue "-Name" args, value = []) →
      firstPositional ["-Name"] args = some pattern → Asked args pattern

/-- **A variable is listed** if its name is covered by the pattern that is asked for, if there is
one, in lower case. -/
def Selected (args : List Text) (name : Text) : Prop :=
  ∀ pattern, Asked args pattern → Covers (lower pattern) (lower name)

/-- The variables of a state differ, and are shown in one line. -/
structure Listable (state : State) : Prop where
  nodup : state.bindings.names.Nodup
  name : ∀ name ∈ state.bindings.names, '\n' ∉ name
  value : ∀ name text, (name, Value.str text) ∈ state.bindings → '\n' ∉ text

variable {args : List Text} {pattern name text : Text} {value : Value} {state : State}

/-! ### Patterns -/

/-- **What the command takes for its pattern** is the pattern that is asked for. -/
theorem asked_iff :
    flagOrPositional "-Name" ["-Name"] args = some pattern ↔ Asked args pattern := by
  rw [flagOrPositional, present_eq_some, firstPresent]
  constructor
  · rintro ⟨hne, h⟩
    split at h
    · next given hgiven =>
      cases h
      exact .flag hne (present_eq_some.mp hgiven).2
    · next hnone => exact .loose hne (present_eq_none.mp hnone) h
  · intro h
    cases h with
    | flag hne hflag =>
      rw [present_eq_some.mpr ⟨hne, hflag⟩]
      exact ⟨hne, rfl⟩
    | loose hne hflag hloose =>
      rw [present_eq_none.mpr hflag]
      exact ⟨hne, hloose⟩

theorem meets_iff :
    meets (flagOrPositional "-Name" ["-Name"] args) name = true ↔ Selected args name := by
  unfold Selected
  simp only [← asked_iff]
  cases hasked : flagOrPositional "-Name" ["-Name"] args with
  | none => exact ⟨fun _ => nofun, fun _ => rfl⟩
  | some pattern =>
    have hne : pattern ≠ [] := (present_eq_some.mp hasked).1
    have hmeets : meets (some pattern) name = Glob.covers (lower pattern) (lower name) := by
      rw [meets, present_eq_some.mpr ⟨hne, rfl⟩]
    rw [hmeets, covers_iff]
    simp only [Option.some.injEq, forall_eq']

instance (args : List Text) : DecidablePred (Selected args) :=
  fun _ => decidable_of_iff _ meets_iff

/-- **The variables that are listed**, in order. -/
def chosen (args : List Text) (bindings : Fields Value) : Fields Value :=
  bindings.filter fun entry => Selected args entry.1

/-! ### Lines -/

theorem shown_displayValue (value : Value) : Shown value (displayValue value) := by
  cases value with
  | null => exact .null
  | bool b => cases b <;> constructor
  | int n => exact .whole (isNumeral_writeInteger n)
  | float x => exact .float
  | str text => exact .text
  | arr items => exact .list
  | obj fields => exact .object

/-- A value is shown on one line, if it is no text with a line break. -/
theorem Shown.oneLine (h : Shown value text) (hv : ∀ text, value = .str text → '\n' ∉ text) :
    '\n' ∉ text := by
  have hdigits : ∀ {text : Text}, Digits text → '\n' ∉ text := by
    intro text hd hmem
    cases hd _ hmem
  cases h with
  | null | list | object | yes | no => decide
  | text => exact hv _ rfl
  | float => exact fun hmem => absurd (isNumeric_write _ _ hmem) (by decide)
  | whole hn =>
    cases hn with
    | natural hw => exact hdigits hw.digits
    | negative hw =>
      rw [List.mem_cons, not_or]
      exact ⟨by decide, hdigits hw.digits⟩

/-- The columns of the listing. -/
def columns : List Column := [⟨"Name", 15⟩, ⟨"Value", 32⟩, ⟨"Options", 0⟩]

theorem line_columns {option : Text} (hne : strip option ≠ []) (he : Ended option)
    (name value : Text) : Layout.line columns [name, value, option] = listed name value option := by
  have hjoined : joinWith [' '] (pad columns [name, value, option]) =
      padRight 15 name ++ ' ' :: (padRight 32 value ++ [' ']) ++ option := by
    simp [columns, pad, joinWith, List.intercalate]
  rw [Layout.line, hjoined, stripRight_append hne, stripRight_of_ended he]
  simp [listed]

/-- The line of a variable. -/
def lineOf (entry : Text × Value) : Text :=
  listed entry.1 ((displayValue entry.2).take valueWidth) "None"

theorem isLineOf_lineOf (entry : Text × Value) : IsLineOf entry (lineOf entry) :=
  ⟨_, shown_displayValue entry.2, rfl⟩

theorem chosen_sublist (args : List Text) (bindings : Fields Value) :
    (chosen args bindings).Sublist bindings :=
  List.filter_sublist

theorem filter_meets (args : List Text) (bindings : Fields Value) :
    bindings.filter (fun (name, _) => meets (flagOrPositional "-Name" ["-Name"] args) name) =
      chosen args bindings := by
  refine List.filter_congr fun entry _ => ?_
  rw [Bool.eq_iff_iff, meets_iff, decide_eq_true_iff]

/-- The lines of the listing: the headings, a rule and the variables that are listed. -/
theorem tableLines_columns (entries : Fields Value) :
    tableLines columns (entries.map fun (name, value) =>
      [name, (displayValue value).take valueWidth, "None"]) =
      listed "Name" "Value" "Options" :: listed "----" "-----" "-------" ::
        entries.map lineOf := by
  have hheadings : Layout.line columns (columns.map (·.header)) =
      listed "Name" "Value" "Options" := line_columns (by decide) (by decide) _ _
  have hrule : Layout.line columns
      (columns.map fun column => List.replicate column.header.length '-') =
      listed "----" "-----" "-------" := line_columns (by decide) (by decide) _ _
  rw [tableLines, hheadings, hrule, List.map_map]
  congr 2
  exact List.map_congr_left fun entry _ => line_columns (by decide) (by decide) _ _

/-- **No variable breaks a line** of the listing. -/
theorem Listable.not_mem_lineOf (h : Listable state) {entry : Text × Value}
    (hentry : entry ∈ state.bindings) : '\n' ∉ lineOf entry := by
  obtain ⟨name, value⟩ := entry
  have hname : '\n' ∉ name := h.name _ (List.mem_map_of_mem hentry)
  have hshown : '\n' ∉ displayValue value := by
    refine (shown_displayValue value).oneLine ?_
    rintro text rfl
    exact h.value name text hentry
  rw [lineOf, ← line_columns (by decide) (by decide)]
  refine not_mem_line columns ?_
  simp only [List.forall_mem_cons, List.not_mem_nil, false_imp_iff, implies_true, and_true]
  exact ⟨hname, fun hmem => hshown (List.mem_of_mem_take hmem), by decide⟩

/-- **The listing read line by line.** -/
theorem splitAt_variableTable (h : Listable state) (args : List Text) :
    Text.splitAt '\n' (variableTable (flagOrPositional "-Name" ["-Name"] args) state.bindings) =
      listed "Name" "Value" "Options" :: listed "----" "-----" "-------" ::
        (chosen args state.bindings).map lineOf := by
  rw [variableTable, filter_meets, ← tableLines_columns]
  refine splitAt_joinWith (List.cons_ne_nil _ _) fun line hline => ?_
  change line ∈ tableLines columns _ at hline
  rw [tableLines_columns] at hline
  rcases List.mem_cons.mp hline with rfl | hline
  · decide
  rcases List.mem_cons.mp hline with rfl | hline
  · decide
  obtain ⟨entry, hentry, rfl⟩ := List.mem_map.mp hline
  exact h.not_mem_lineOf ((chosen_sublist args state.bindings).subset hentry)

/-! ### Places -/

/-- A name that is written has the place it had before, or the last one. -/
theorem idxOf_names_put (name : Text) (value : Value) (fields : Fields Value) :
    (fields.put name value).names.idxOf name = fields.names.idxOf name := by
  rw [names_put]
  split_ifs with hn
  · rfl
  · rw [List.idxOf_append_of_notMem hn, List.idxOf_cons_self, List.idxOf_eq_length hn]
    rfl

theorem getElem?_names_iff {fields : Fields Value} (hd : fields.names.Nodup)
    (hn : name ∈ fields.names) (i : Nat) :
    fields.names[i]? = some name ↔ i = fields.names.idxOf name := by
  constructor
  · intro hget
    obtain ⟨hlt, rfl⟩ := List.getElem?_eq_some_iff.mp hget
    exact (hd.idxOf_getElem i hlt).symm
  · rintro rfl
    exact List.getElem?_idxOf hn

/-- **The line of a variable** stands where its name does. -/
theorem getElem?_map_lineOf {fields : Fields Value} {i : Nat} (hd : fields.names.Nodup)
    (hget : fields.get? name = some value) (hi : fields.names[i]? = some name) :
    (fields.map lineOf)[i]? = some (lineOf (name, value)) := by
  rw [Fields.names, List.getElem?_map] at hi
  obtain ⟨⟨other, old⟩, hentry, rfl⟩ := Option.map_eq_some_iff.mp hi
  have hold : fields.get? other = some old := get?_of_mem hd (List.mem_of_getElem? hentry)
  cases hget.symm.trans hold
  rw [List.getElem?_map, hentry, Option.map_some]

/-- What an assignment changes. -/
theorem bindings_of_setVariable {context : Context} {before after : State} {answer : Answer}
    {entries : Journal}
    (h : (setVariable.handler context args).run before = ⟨.ok answer, after, entries⟩) :
    ∃ name value, assignment args = .ok (name, value) ∧
      after.bindings = before.bindings.put name (.str value) := by
  unfold setVariable at h
  dsimp only at h
  rw [changing_run] at h
  cases ha : assignment args with
  | error failure =>
    rw [ha] at h
    cases h
  | ok assigned =>
    rw [ha] at h
    cases h
    exact ⟨assigned.1, assigned.2, rfl, rfl⟩

/-! ### Listings -/

theorem getVariable_run (context : Context) (args : List Text) (state : State) :
    (getVariable.handler context args).run state =
      ⟨.ok (.reply (Reply.table
        (variableTable (flagOrPositional "-Name" ["-Name"] args) state.bindings))), state, []⟩ := by
  unfold getVariable
  dsimp only
  rw [reading_run]
  rfl

/-- If no pattern is asked for, all variables are listed. -/
theorem chosen_of_not_asked (h : ∀ pattern, ¬ Asked args pattern) (bindings : Fields Value) :
    chosen args bindings = bindings :=
  List.filter_eq_self.mpr fun _ _ => decide_eq_true fun pattern hasked => absurd hasked (h pattern)

/-- **Among the lines of all variables one is that of a variable that has been assigned**: where
the variable was before, or behind the others. -/
theorem Listable.line_assigned (h : Listable state) {context : Context} {before : State}
    {answer : Answer} {entries : Journal}
    (hrun : (setVariable.handler context args).run before = ⟨.ok answer, state, entries⟩) :
    ∃ name value, assignment args = .ok (name, value) ∧
      (∀ i, state.bindings.names[i]? = some name ↔ i = before.bindings.names.idxOf name) ∧
      (state.bindings.map lineOf)[before.bindings.names.idxOf name]? =
        some (listed name (value.take 30) "None") := by
  obtain ⟨name, value, hassigned, hbindings⟩ := bindings_of_setVariable hrun
  have hget : state.bindings.get? name = some (.str value) := by
    rw [hbindings, Fields.get?_put, if_pos rfl]
  have hmem : name ∈ state.bindings.names := List.mem_map_of_mem (mem_of_get? hget)
  have hplace : ∀ i, state.bindings.names[i]? = some name ↔
      i = before.bindings.names.idxOf name := by
    intro i
    rw [getElem?_names_iff h.nodup hmem, hbindings, idxOf_names_put]
  exact ⟨name, value, hassigned, hplace,
    getElem?_map_lineOf h.nodup hget ((hplace _).mpr rfl)⟩

/-- A state with a variable that is null, a text in the middle, and an object. -/
def threeBindings (text : Text) : State :=
  { (default : State) with
    bindings := [("beta", .null), ("Box", .str text), ("alpha", .obj [("key", .int 1)])] }

end CmdletShell.Proofs.Builtins.Listings
