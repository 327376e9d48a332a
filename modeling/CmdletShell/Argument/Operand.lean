import CmdletShell.Argument.Flag
import CmdletShell.Argument.Positional
import CmdletShell.Failure

/-!
# Operands of the item commands

* `present`: a text that counts, since it is not empty.
* `operands`: the source and the destination of a copy or a move, each by flag or by position.
-/

namespace CmdletShell.Argument

/-- The flags of the item commands that take a value. -/
def itemFlags : List Text :=
  ["-ItemType", "-Path", "-Destination", "-Name"]

/-- A text that counts, since it is not empty. -/
def present : Option Text → Option Text
  | some text => nonEmpty text
  | none => none

theorem present_eq_some {asked : Option Text} {text : Text} :
    present asked = some text ↔ text ≠ [] ∧ asked = some text := by
  rcases asked with _ | _ | ⟨c, rest⟩
  · exact ⟨nofun, nofun⟩
  · refine ⟨nofun, ?_⟩
    rintro ⟨hne, ⟨⟩⟩
    exact absurd rfl hne
  · constructor
    · rintro ⟨⟩
      exact ⟨List.cons_ne_nil c rest, rfl⟩
    · rintro ⟨-, h⟩
      exact h

theorem present_eq_none {asked : Option Text} :
    present asked = none ↔ ∀ text ∈ asked, text = [] := by
  rcases asked with _ | _ | ⟨c, rest⟩
  · exact ⟨fun _ => nofun, fun _ => rfl⟩
  · refine ⟨fun _ => ?_, fun _ => rfl⟩
    rintro text ⟨⟩
    rfl
  · exact ⟨nofun, fun h => absurd (h _ rfl) (List.cons_ne_nil c rest)⟩

theorem present_of_ne_nil {text : Option Text} (h : ∀ value ∈ text, value ≠ []) :
    present text = text := by
  cases text with
  | none => rfl
  | some value => exact present_eq_some.mpr ⟨h value rfl, rfl⟩

/-- The first of two texts that counts, else the second as it is. -/
def firstPresent (first second : Option Text) : Option Text :=
  match present first with
  | some text => some text
  | none => second

/-- What a flag gives, else the first positional argument. -/
def flagOrPositional (flag : Text) (valueFlags args : List Text) : Option Text :=
  present (firstPresent (flagValue flag args) (firstPositional valueFlags args))

/-- The source of a copy or a move. -/
def source? (args : List Text) : Option Text :=
  flagOrPositional "-Path" itemFlags args

/-- The destination of a copy or a move: by flag, else the first positional argument that is not
the source. -/
def destination? (args : List Text) : Option Text :=
  match flagValue "-Destination" args with
  | some text => nonEmpty text
  | none =>
    let rest := positionals itemFlags args
    present (if (flagValue "-Path" args).isNone then rest.tail.head? else rest.head?)

/-- The source and the destination of a copy or a move. -/
def operands (command : Text) (args : List Text) : Except Failure (Text × Text) :=
  let detail := command ++ " requires source and destination parameters."
  match source? args, destination? args with
  | none, _ => .error (.missing command "Path" detail)
  | some _, none => .error (.missing command "Destination" detail)
  | some source, some destination => .ok (source, destination)

end CmdletShell.Argument
