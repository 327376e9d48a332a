import CmdletShell.Interpreter.Basic
import CmdletShell.Proofs.Builtins.Registry
import CmdletShell.Proofs.Texts.Order
import Mathlib.Data.Finset.Card

/-!
# The registry as an ordered map

A registry is filled by registering commands one after another. It is a map from keys to commands
in which a key keeps the place of its first registration, and has the command of its last one
(`IsLatest`). `OrderedMap` lists what that means for everything that can be asked of a registry, and
`orderedMap_registered` says it of every sequence of registrations.

The induction is on the sequence from its end: the last registration writes one entry. What carries
it is that the names of the entries are the keys in order of first registration
(`names_entries_ofList`).
-/

namespace CmdletShell.Proofs.Builtins.Registrations

open CmdletShell.Registry CmdletShell.Text
open CmdletShell.Proofs.Builtins.Fields CmdletShell.Proofs.Builtins.Registry
open CmdletShell.Proofs.Texts.Order

variable {commands registered : List Command} {command : Command} {key : Text}

/-- The keys of commands. -/
def keys (commands : List Command) : List Text := commands.map (·.description.key)

/-- The command is the last one that is registered under the key. -/
def IsLatest (registered : List Command) (key : Text) (command : Command) : Prop :=
  ∃ before later, registered = before ++ command :: later ∧ command.description.key = key ∧
    ∀ other ∈ later, other.description.key ≠ key

/-- **What a registry answers** after commands were registered. -/
structure OrderedMap (registered : List Command) (registry : Registry) : Prop where
  /-- A name has the command that was last registered under its lower case. -/
  get?_eq_some : ∀ name command,
    registry.get? name = some command ↔ IsLatest registered (lower name) command
  /-- It has none if nothing was. -/
  get?_eq_none : ∀ name, registry.get? name = none ↔ lower name ∉ keys registered
  /-- A name is contained if it has a command. -/
  contains_iff : ∀ name, registry.contains name = true ↔ registry.get? name ≠ none
  /-- Keys are counted once. -/
  size_eq : registry.size = (keys registered).toFinset.card
  /-- There is one command for each key, in order of first registration. -/
  commands : List.Forall₂ (IsLatest registered) (keys registered).eraseDups registry.commands
  /-- The names are strictly increasing. -/
  names : registry.names.Pairwise (· < ·)
  /-- They are the names of the commands. -/
  mem_names : ∀ name,
    name ∈ registry.names ↔ ∃ command ∈ registry.commands, command.description.name = name
  /-- The names that an interpreter knows are strictly increasing. -/
  commandNames : ∀ interpreter : Interpreter,
    ({ interpreter with registry } : Interpreter).commandNames.Pairwise (· < ·)
  /-- They are those of the registry and those of the aliases. -/
  mem_commandNames : ∀ (interpreter : Interpreter) (name : Text),
    name ∈ ({ interpreter with registry } : Interpreter).commandNames ↔
      name ∈ registry.names ∨ name ∈ interpreter.state.aliases.names

/-! ### The entries -/

theorem ofList_append (commands more : List Command) :
    ofList (commands ++ more) = more.foldl register (ofList commands) := List.foldl_append

/-- **The entries have the keys in order of first registration.** -/
theorem names_entries_ofList (commands : List Command) :
    (ofList commands).entries.names = (keys commands).eraseDups := by
  induction commands using List.reverseRecOn with
  | nil => rfl
  | append_singleton commands command ih =>
    have hstep : (ofList (commands ++ [command])).entries =
        (ofList commands).entries.put command.description.key command := by
      rw [ofList_append]
      rfl
    have hkeys : keys (commands ++ [command]) = keys commands ++ [command.description.key] :=
      List.map_append
    rw [hstep, names_put, hkeys, List.eraseDups_append, ih]
    by_cases hk : command.description.key ∈ keys commands
    · rw [if_pos (List.mem_eraseDups.mpr hk)]
      simp [hk, List.removeAll]
    · rw [if_neg fun hmem => hk (List.mem_eraseDups.mp hmem)]
      simp [hk, List.removeAll, List.eraseDups_cons]

theorem nodup_entries_ofList (commands : List Command) :
    (ofList commands).entries.names.Nodup := by
  induction commands using List.reverseRecOn with
  | nil => exact List.nodup_nil
  | append_singleton commands command ih =>
    rw [ofList_append]
    exact nodup_put ih command.description.key command

/-- The key of a command is the name of its entry. -/
theorem keys_commands_ofList (commands : List Command) :
    keys (ofList commands).commands = (ofList commands).entries.names := by
  rw [keys, Registry.commands, List.map_map]
  exact List.map_congr_left fun entry hm => (mem_entries_ofList hm).2

/-! ### What is asked of it -/

/-- The last command of a key is the one that is found from the end. -/
theorem find?_reverse_eq_some :
    (commands.reverse.find? fun command => command.description.key = key) = some command ↔
      IsLatest commands key command := by
  rw [List.find?_eq_some_iff_append]
  constructor
  · rintro ⟨hk, later, before, hsplit, hlater⟩
    refine ⟨before.reverse, later.reverse, ?_, of_decide_eq_true hk, fun other hm => ?_⟩
    · have hreverse := congrArg List.reverse hsplit
      simpa using hreverse
    · simpa using hlater other (List.mem_reverse.mp hm)
  · rintro ⟨before, later, rfl, hk, hlater⟩
    refine ⟨decide_eq_true hk, later.reverse, before.reverse, by simp, fun other hm => ?_⟩
    simpa using hlater other (List.mem_reverse.mp hm)

theorem get?_eq_some_iff :
    (ofList commands).entries.get? key = some command ↔ IsLatest commands key command := by
  rw [get?_ofList, find?_reverse_eq_some]

theorem get?_eq_none_iff : (ofList commands).entries.get? key = none ↔ key ∉ keys commands := by
  rw [get?_ofList, List.find?_eq_none]
  simp [keys]

/-- Each entry has the last command of its key. -/
theorem forall₂_commands (commands : List Command) :
    List.Forall₂ (IsLatest commands) (keys commands).eraseDups (ofList commands).commands := by
  have hentries : ∀ entry ∈ (ofList commands).entries, IsLatest commands entry.1 entry.2 :=
    fun entry hm => get?_eq_some_iff.mp (get?_of_mem (nodup_entries_ofList commands) hm)
  rw [← names_entries_ofList, Fields.names, Registry.commands, List.forall₂_map_left_iff,
    List.forall₂_map_right_iff, List.forall₂_same]
  exact hentries

/-- Commands of different keys have different names. -/
theorem nodup_names (commands : List Command) :
    ((ofList commands).commands.map (·.description.name)).Nodup := by
  have hkeys : (keys (ofList commands).commands).Nodup := by
    rw [keys_commands_ofList]
    exact nodup_entries_ofList commands
  have hlower : keys (ofList commands).commands =
      ((ofList commands).commands.map (·.description.name)).map lower := by
    rw [List.map_map]
    rfl
  rw [hlower] at hkeys
  exact hkeys.of_map

theorem mem_names_iff {registry : Registry} {name : Text} :
    name ∈ registry.names ↔ ∃ command ∈ registry.commands, command.description.name = name := by
  rw [Registry.names, mem_sort, List.mem_map]

theorem orderedMap_ofList (commands : List Command) : OrderedMap commands (ofList commands) where
  get?_eq_some name command := get?_eq_some_iff
  get?_eq_none name := get?_eq_none_iff
  contains_iff name := by rw [Registry.contains, Option.isSome_iff_ne_none]
  size_eq := by
    have hset : (keys commands).toFinset = (ofList commands).entries.names.toFinset := by
      ext key
      rw [List.mem_toFinset, List.mem_toFinset, names_entries_ofList, List.mem_eraseDups]
    rw [hset, List.toFinset_card_of_nodup (nodup_entries_ofList commands), Registry.size,
      Fields.names, List.length_map]
  commands := forall₂_commands commands
  names := pairwise_sort_of_nodup (nodup_names commands)
  mem_names name := mem_names_iff
  commandNames interpreter := pairwise_sortUnique _
  mem_commandNames interpreter name := by
    rw [Interpreter.commandNames, mem_sortUnique, List.mem_append]
    rfl

/-- **The registry is a case-insensitive ordered map**, whatever is registered in an empty one or
in one of the built-in commands. -/
theorem orderedMap_registered (commands : List Command) :
    OrderedMap commands (commands.foldl register .empty) ∧
    OrderedMap ((Cmdlet.builtins.flatMap (·.2)).map Command.complete ++ commands)
      (commands.foldl register .default) := by
  refine ⟨orderedMap_ofList commands, ?_⟩
  have hdefault : commands.foldl register .default =
      ofList ((Cmdlet.builtins.flatMap (·.2)).map Command.complete ++ commands) :=
    (ofList_append _ commands).symm
  rw [hdefault]
  exact orderedMap_ofList _

end CmdletShell.Proofs.Builtins.Registrations
