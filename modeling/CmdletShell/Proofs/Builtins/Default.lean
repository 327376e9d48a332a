import CmdletShell.Proofs.Builtins.Changes

/-!
# The default registry

The keys of the built-in commands differ, so the default registry finds each of them under every
word that is its key in lower case (`lookup_default`), and nothing under any other word
(`lookup_default_eq_none`).
-/

namespace CmdletShell.Proofs.Builtins.Default

open CmdletShell.Cmdlet CmdletShell.Proofs.Builtins.Registry CmdletShell.Proofs.Builtins.Changes

/-- The keys of the built-in commands differ. -/
theorem keys_nodup :
    (((builtins.flatMap (·.2)).map Command.complete).map (·.description.key)).Nodup := by
  have hk : ((builtins.flatMap (·.2)).map Command.complete).map (·.description.key) =
      (builtins.flatMap (·.2)).map (·.description.key) := by
    rw [List.map_map]
    exact List.map_congr_left fun command _ => key_complete command
  rw [hk]
  decide +kernel

/-- **A built-in command is found by its name in any letter case.** -/
theorem lookup_default {command : Command} {name : Text}
    (h : command ∈ builtins.flatMap (·.2)) (hn : Text.lower name = command.description.key) :
    Registry.default.lookup (.str name) = .ok (some command.complete) := by
  have hmem : command.complete ∈ (builtins.flatMap (·.2)).map Command.complete :=
    List.mem_map_of_mem h
  rw [Registry.lookup, Registry.get?, hn, ← key_complete command]
  exact congrArg Except.ok (get?_ofList_of_mem keys_nodup hmem)

/-- A word that is the key of no built-in command is not found. -/
theorem lookup_default_eq_none {name : Text}
    (h : Text.lower name ∉ (builtins.flatMap (·.2)).map (·.description.key)) :
    Registry.default.lookup (.str name) = .ok none := by
  cases hl : Registry.default.lookup (.str name) with
  | error fault => cases hl
  | ok found =>
    cases found with
    | none => rfl
    | some complete =>
      obtain ⟨_, hname, hmem, hkey⟩ := lookup_ofList hl
      cases hname
      obtain ⟨command, hc, rfl⟩ := List.mem_map.mp hmem
      rw [← hkey, key_complete] at h
      exact absurd (List.mem_map_of_mem hc) h

end CmdletShell.Proofs.Builtins.Default
