import CmdletShell.Proofs.Files.Storage
import CmdletShell.Settings.File

/-!
# Loading a settings file

Loading ends in one of six ways, listed by `LoadRun`: there is no file, its bytes are no text, its
text has a number that is refused, or follows no grammar, or means something else than an object, or
means an object, which is laid over the settings. Later statements about loading go by these cases.

Loading breaks down exactly if the content is `Broken`: what is no text, and a number that is
refused, are not taken for a file that holds no settings. `fault_escapes` says that neither loading
again nor loading a file by name turns such a breakdown into an answer.
-/

namespace CmdletShell.Proofs.Files.Loading

open CmdletShell.Text CmdletShell.Proofs.Files.Storage

/-- **The ways loading a file ends.** -/
inductive LoadRun (storage : Storage) (path : Path) (settings : Settings) :
    Except Fault (Option Settings) → Prop
  /-- There is no file. -/
  | absent : storage.read? path = none → LoadRun storage path settings (.ok none)
  /-- The bytes of the file are no text. -/
  | undecodable {bytes} : storage.read? path = some bytes → Utf8.decode? bytes = none →
      LoadRun storage path settings (.error .undecodable)
  /-- A number in the text is refused. -/
  | refused {bytes text} : storage.read? path = some bytes → Utf8.decode? bytes = some text →
      Json.read text = .error .tooLong → LoadRun storage path settings (.error .wrongValue)
  /-- The text does not follow the grammar. -/
  | malformed {bytes text} : storage.read? path = some bytes → Utf8.decode? bytes = some text →
      Json.read text = .error .malformed → LoadRun storage path settings (.ok none)
  /-- The text means something else than an object. -/
  | other {bytes text value} : storage.read? path = some bytes → Utf8.decode? bytes = some text →
      Json.read text = .ok value → Setting.isObject value = false →
      LoadRun storage path settings (.ok none)
  /-- The text means an object. -/
  | accepted {bytes text fields} : storage.read? path = some bytes →
      Utf8.decode? bytes = some text → Json.read text = .ok (.obj fields) →
      LoadRun storage path settings (.ok (some (settings.overlay (.obj fields))))

variable {storage made : Storage} {path : Path} {settings : Settings} {fault : Fault}

theorem load_eq {bytes : List Nat} (hb : storage.read? path = some bytes) :
    settings.load storage path =
      (Settings.readDocument bytes).map fun found => found.map (Settings.overlay · settings) := by
  unfold Settings.load Settings.findDocument
  rw [hb]

theorem load_run (storage : Storage) (path : Path) (settings : Settings) :
    LoadRun storage path settings (settings.load storage path) := by
  cases hb : storage.read? path with
  | none =>
    have h : settings.load storage path = .ok none := by
      unfold Settings.load Settings.findDocument
      rw [hb]
      rfl
    rw [h]
    exact .absent hb
  | some bytes =>
    rw [load_eq hb, Settings.readDocument]
    cases ht : Utf8.decode? bytes with
    | none => exact .undecodable hb ht
    | some text =>
      dsimp only
      cases hr : Json.read text with
      | error reason =>
        cases reason with
        | malformed => exact .malformed hb ht hr
        | tooLong => exact .refused hb ht hr
      | ok value =>
        cases value with
        | obj fields => exact .accepted hb ht hr
        | _ => exact .other hb ht hr rfl

/-! ### Breakdowns -/

/-- The content of a file is no text, or has a number that is refused. -/
inductive Broken (storage : Storage) (path : Path) : Fault → Prop
  /-- The bytes are no text. -/
  | undecodable {bytes} : storage.read? path = some bytes → Utf8.decode? bytes = none →
      Broken storage path .undecodable
  /-- A number is refused. -/
  | refused {bytes text} : storage.read? path = some bytes → Utf8.decode? bytes = some text →
      Json.read text = .error .tooLong → Broken storage path .wrongValue

theorem load_error_iff : settings.load storage path = .error fault ↔ Broken storage path fault := by
  have hrun := load_run storage path settings
  constructor
  · intro h
    rw [h] at hrun
    cases hrun with
    | undecodable hb ht => exact .undecodable hb ht
    | refused hb ht hr => exact .refused hb ht hr
  · intro h
    cases h with
    | undecodable hb ht => rw [load_eq hb, Settings.readDocument, ht]; rfl
    | refused hb ht hr =>
      rw [load_eq hb, Settings.readDocument, ht]
      dsimp only
      rw [hr]
      rfl

theorem Broken.of_read? {other : Storage} (h : Broken storage path fault)
    (hr : other.read? path = storage.read? path) : Broken other path fault := by
  cases h with
  | undecodable hb ht => exact .undecodable (hr.trans hb) ht
  | refused hb ht hn => exact .refused (hr.trans hb) ht hn

/-! ### The settings file of the program -/

variable {site : Site}

theorem ensure_of_made (hm : storage.makeDirectory site.directory = .ok made) :
    settings.ensure site storage =
      if (made.node? site.settings).isSome then .ok made
      else .ok ((made.write? site.settings settings.fileBytes).getD made) := by
  unfold Settings.ensure
  rw [hm]
  dsimp only [bind, Except.bind]
  split <;> rfl

/-- A settings file that is there stays as it is. -/
theorem ensure_of_node? {node : Node} (hm : storage.makeDirectory site.directory = .ok made)
    (hn : storage.node? site.settings = some node) :
    settings.ensure site storage = .ok made := by
  rw [ensure_of_made hm, (makeDirectory_extends hm).node? hn]
  rfl

theorem reload_of_ensure (h : settings.ensure site storage = .ok made) :
    settings.reload site storage = (settings.load made site.settings, made) := by
  unfold Settings.reload
  rw [h]

/-- Nothing is loaded if the directory cannot be made. -/
theorem reload_of_error (hm : storage.makeDirectory site.directory = .error fault) :
    settings.reload site storage = (.ok none, storage) := by
  have he : settings.ensure site storage = .error fault := by
    unfold Settings.ensure
    rw [hm]
    rfl
  unfold Settings.reload
  rw [he]
  dsimp only
  rw [if_pos (makeDirectory_error hm)]

/-- **Breakdowns escape.** Loading a file breaks down exactly if its content is broken. Loading the
settings file again then breaks down too, as far as its directory can be made, and so does loading
a file by name; neither breaks down on a file for another reason. -/
theorem fault_escapes (settings : Settings) (storage : Storage) (path : Path) (fault : Fault) :
    (settings.load storage path = .error fault ↔ Broken storage path fault) ∧
    (∀ site : Site, site.settings = path → (storage.read? path).isSome →
      ((settings.reload site storage).1 = .error fault ↔
        (∃ made, storage.makeDirectory site.directory = .ok made) ∧ Broken storage path fault)) ∧
    ∀ home file, file.expand home = .ok path →
      (settings.loadFile home storage file = .error (.fault fault) ↔ Broken storage path fault) := by
  refine ⟨load_error_iff, ?_, ?_⟩
  · rintro site rfl hs
    obtain ⟨bytes, hb⟩ := Option.isSome_iff_exists.mp hs
    cases hm : storage.makeDirectory site.directory with
    | error filing =>
      rw [reload_of_error hm]
      simp
    | ok made =>
      have hsame : made.read? site.settings = storage.read? site.settings := by
        rw [hb, (makeDirectory_extends hm).read? hb]
      rw [reload_of_ensure (ensure_of_node? hm (read?_eq_some.mp hb)), load_error_iff]
      constructor
      · intro h
        exact ⟨⟨made, rfl⟩, h.of_read? hsame.symm⟩
      · rintro ⟨-, h⟩
        exact h.of_read? hsame
  · intro home file he
    unfold Settings.loadFile
    rw [he]
    dsimp only
    cases hb : storage.read? path with
    | none =>
      have hnot : ¬ Broken storage path fault := by
        intro h
        cases h with
        | undecodable hr _ => rw [hb] at hr; cases hr
        | refused hr _ _ => rw [hb] at hr; cases hr
      simpa using hnot
    | some bytes =>
      rw [← @load_error_iff storage path settings fault]
      cases settings.load storage path with
      | error inner => simp
      | ok loaded => cases loaded <;> simp

/-- A site below a relative directory. -/
def scratch : Site := .below [] ⟨[], ["psim-home"]⟩

/-- A storage whose settings file begins with a byte that begins no character. -/
def damaged : Storage :=
  ⟨[("psim-home", .directory), ("psim-home/config.json", .file [0xFF, 0x7B, 0x7D])]⟩

/-- The damaged file is broken, and loading it breaks down in each of the three ways. -/
theorem fault_escapes_damaged :
    Broken damaged scratch.settings .undecodable ∧
    Settings.initial.load damaged scratch.settings = .error .undecodable ∧
    (Settings.initial.reload scratch damaged).1 = .error .undecodable ∧
    Settings.initial.loadFile [] damaged scratch.settings = .error (.fault .undecodable) := by
  have hb : Broken damaged scratch.settings .undecodable :=
    @Broken.undecodable damaged scratch.settings [0xFF, 0x7B, 0x7D] rfl rfl
  obtain ⟨hload, hreload, hfile⟩ :=
    fault_escapes Settings.initial damaged scratch.settings .undecodable
  have hm : damaged.makeDirectory scratch.directory = .ok damaged := rfl
  exact ⟨hb, hload.mpr hb, (hreload scratch rfl rfl).mpr ⟨⟨damaged, hm⟩, hb⟩,
    (hfile [] scratch.settings rfl).mpr hb⟩

/-- So it is not true that loading a file always answers yes or no. -/
theorem load_not_total :
    ¬ ∀ (settings : Settings) (storage : Storage) (path : Path),
      ∃ loaded, settings.load storage path = .ok loaded := by
  intro h
  obtain ⟨loaded, hl⟩ := h Settings.initial damaged scratch.settings
  have hb : Settings.initial.load damaged scratch.settings = .error .undecodable := rfl
  rw [hb] at hl
  cases hl

end CmdletShell.Proofs.Files.Loading
