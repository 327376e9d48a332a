import CmdletShell.Command.Registry
import CmdletShell.Proofs.Builtins.Fields
import Mathlib.Data.List.Induction
import Mathlib.Data.List.Nodup

/-!
# Finding commands

A command that a look-up finds is one of the registry (`mem_commands_of_lookup`); in a registry made
from a list it is one of the list, and its key is the lower case of the name looked up
(`lookup_ofList`). Such a registry finds the last command of a key (`get?_ofList`), so that it finds
every command of a list whose keys differ (`get?_ofList_of_mem`).
-/

namespace CmdletShell.Proofs.Builtins.Registry

open CmdletShell.Registry CmdletShell.Proofs.Builtins.Fields

variable {registry : Registry} {target : Value} {command : Command} {commands : List Command}

theorem lookup_some (h : registry.lookup target = .ok (some command)) :
    ∃ name, target = .str name ∧ (Text.lower name, command) ∈ registry.entries := by
  cases target with
  | str name => exact ⟨name, rfl, mem_of_get? (Except.ok.inj h)⟩
  | _ => cases h

theorem mem_commands_of_lookup (h : registry.lookup target = .ok (some command)) :
    command ∈ registry.commands := by
  obtain ⟨name, -, hmem⟩ := lookup_some h
  exact List.mem_map.mpr ⟨_, hmem, rfl⟩

theorem mem_entries_foldl_register {entry : Text × Command} :
    ∀ (commands : List Command) {registry : Registry},
      entry ∈ (commands.foldl register registry).entries →
      entry ∈ registry.entries ∨ ∃ command ∈ commands, entry = (command.description.key, command)
  | [], _, h => Or.inl h
  | first :: commands, registry, h => by
    rcases mem_entries_foldl_register commands h with h | ⟨command, hc, rfl⟩
    · rcases mem_put h with rfl | h
      · exact Or.inr ⟨first, List.mem_cons_self, rfl⟩
      · exact Or.inl h
    · exact Or.inr ⟨command, List.mem_cons_of_mem _ hc, rfl⟩

/-- An entry of a registry made from a list is a command of the list under its key. -/
theorem mem_entries_ofList {key : Text} (h : (key, command) ∈ (ofList commands).entries) :
    command ∈ commands ∧ command.description.key = key := by
  rcases mem_entries_foldl_register commands h with h | ⟨command', hc, heq⟩
  · cases h
  · obtain ⟨rfl, rfl⟩ := Prod.mk.inj heq
    exact ⟨hc, rfl⟩

theorem mem_commands_ofList (h : command ∈ (ofList commands).commands) : command ∈ commands := by
  obtain ⟨⟨key, command⟩, hmem, rfl⟩ := List.mem_map.mp h
  exact (mem_entries_ofList hmem).1

theorem lookup_ofList (h : (ofList commands).lookup target = .ok (some command)) :
    ∃ name, target = .str name ∧ command ∈ commands ∧
      command.description.key = Text.lower name := by
  obtain ⟨name, rfl, hmem⟩ := lookup_some h
  exact ⟨name, rfl, mem_entries_ofList hmem⟩

/-- The last command that is registered under a key is found. -/
theorem get?_ofList (key : Text) (commands : List Command) :
    (ofList commands).entries.get? key =
      commands.reverse.find? fun command => command.description.key = key := by
  induction commands using List.reverseRecOn with
  | nil => rfl
  | append_singleton commands command ih =>
    have hstep : ofList (commands ++ [command]) = (ofList commands).register command := by
      rw [ofList, List.foldl_append]
      rfl
    rw [hstep, register, Fields.get?_put, List.reverse_append, List.reverse_singleton,
      List.singleton_append, List.find?_cons, ih]
    by_cases hk : key = command.description.key
    · rw [if_pos hk, decide_eq_true hk.symm]
    · rw [if_neg hk, decide_eq_false (Ne.symm hk)]

/-- If the keys of a list differ, each of its commands is found. -/
theorem get?_ofList_of_mem (hd : (commands.map (·.description.key)).Nodup)
    (h : command ∈ commands) :
    (ofList commands).entries.get? command.description.key = some command := by
  rw [get?_ofList]
  cases hf : commands.reverse.find? fun other =>
      other.description.key = command.description.key with
  | none => simpa using List.find?_eq_none.mp hf command (List.mem_reverse.mpr h)
  | some other =>
    have hkey : other.description.key = command.description.key := by
      simpa using List.find?_some hf
    have hmem := List.mem_reverse.mp (List.mem_of_find?_eq_some hf)
    rw [List.inj_on_of_nodup_map hd hmem h hkey]

end CmdletShell.Proofs.Builtins.Registry
