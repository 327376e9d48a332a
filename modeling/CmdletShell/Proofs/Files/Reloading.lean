import CmdletShell.Proofs.Files.Written

/-!
# Loading an accepted settings file again

What a document says of the settings it has said for good: laid over them again it changes nothing
(`overlay_overlay`). So a session whose settings come from an accepted file may load the file as
often as it likes: each time it gets the settings that it has, or none because the directory of the
program cannot be made (`Accepted.reload`).
-/

namespace CmdletShell.Proofs.Files.Reloading

open CmdletShell.Proofs.Builtins.Fields CmdletShell.Proofs.Documents.Soundness
open CmdletShell.Proofs.Documents.Structure
open CmdletShell.Proofs.Files.Storage CmdletShell.Proofs.Files.Loading
open CmdletShell.Proofs.Files.Written

/-! ### A document laid over settings twice -/

/-- A value that is found twice revises once. -/
theorem revise_revise {first value found : Value} {way : Manner} (hk : Kept first value way)
    (hf : Sound found) :
    way.revise found (way.revise found value) = way.revise found value := by
  cases way with
  | taken => rfl
  | merged =>
    obtain ⟨old, fields, -, rfl, -, -⟩ := hk
    cases hf with
    | obj hn _ => exact congrArg Value.obj (update_update hn fields)
    | _ => rfl
  | aliased | filtered => cases found <;> rfl

variable {settings : Settings}

/-- **A document that is laid over settings again changes nothing.** -/
theorem overlay_overlay (hc : Carried settings) {document : Value} (hd : Sound document) :
    (settings.overlay document).overlay document = settings.overlay document := by
  funext setting
  unfold Settings.overlay
  cases hf : setting.find? document with
  | none => rfl
  | some found =>
    simp only [revise_eq]
    exact revise_revise (hc.kept setting) (sound_find? hd hf)

/-! ### An accepted file -/

/-- **The file is accepted**: laid over the settings of a fresh installation, it leads to these. -/
def Accepted (storage : Storage) (path : Path) (settings : Settings) : Prop :=
  Settings.initial.load storage path = .ok (some settings)

variable {storage other : Storage} {path : Path} {site : Site}

theorem Accepted.carried (h : Accepted storage path settings) : Carried settings :=
  carried_of_reached (.load .initial h)

/-- An accepted file is there, and its text means an object. -/
theorem Accepted.document (h : Accepted storage path settings) : ∃ bytes fields,
    storage.read? path = some bytes ∧
      Settings.readDocument bytes = .ok (some (.obj fields)) ∧ Sound (.obj fields) ∧
      settings = Settings.initial.overlay (.obj fields) := by
  have hrun := load_run storage path Settings.initial
  rw [Accepted] at h
  rw [h] at hrun
  cases hrun with
  | @accepted bytes text fields hb ht hr =>
    refine ⟨bytes, fields, hb, ?_, read_sound hr, rfl⟩
    rw [Settings.readDocument, ht]
    dsimp only
    rw [hr]

theorem Accepted.of_read? (h : Accepted storage path settings)
    (hr : other.read? path = storage.read? path) : Accepted other path settings := by
  obtain ⟨bytes, fields, hb, hd, -, rfl⟩ := h.document
  rw [Accepted, load_eq (hr.trans hb), hd]
  rfl

/-- An accepted file that is loaded again leads to the settings it has led to. -/
theorem Accepted.load (h : Accepted storage path settings) :
    settings.load storage path = .ok (some settings) := by
  obtain ⟨bytes, fields, hb, hd, hs, rfl⟩ := h.document
  rw [load_eq hb, hd]
  exact congrArg (fun s => Except.ok (some s)) (overlay_overlay carried_initial hs)

/-- **Loading an accepted settings file again** leaves settings and file as they are. If the
directory of the program cannot be made, nothing is loaded. -/
theorem Accepted.reload (h : Accepted storage site.settings settings) :
    (settings.reload site storage).1 = .ok
      (if (storage.makeDirectory site.directory).isOk then some settings else none) ∧
    Accepted (settings.reload site storage).2 site.settings settings := by
  obtain ⟨bytes, -, hb, -⟩ := h.document
  have hkeep : Accepted (settings.reload site storage).2 site.settings settings :=
    h.of_read? ((reload_keeps settings hb).trans hb.symm)
  refine ⟨?_, hkeep⟩
  cases hm : storage.makeDirectory site.directory with
  | error fault =>
    rw [reload_of_error hm]
    rfl
  | ok made =>
    have hreload : settings.reload site storage = (settings.load made site.settings, made) :=
      reload_of_ensure (ensure_of_node? hm (read?_eq_some.mp hb))
    rw [hreload] at hkeep ⊢
    exact hkeep.load

end CmdletShell.Proofs.Files.Reloading
