import CmdletShell.Proofs.Documents.Structure
import CmdletShell.Proofs.Files.Overlay
import CmdletShell.Proofs.Texts.Case
import CmdletShell.Proofs.Texts.Utf8
import Mathlib.Algebra.Module.Submodule.Lattice

/-!
# The settings file carries the settings

There are four manners in which a value found in a document revises a setting (`Manner`). In each of
them a value that documents have led to is found again as itself, whether it is laid over itself or
over the value at the start (`Kept.revise_self`), and revising keeps it so (`Kept.revise`).

So whatever settings files have been loaded (`Reached`), the file that is written for the settings
gives them back (`written_carries`).
-/

namespace CmdletShell.Proofs.Files.Written

open CmdletShell.Text
open CmdletShell.Proofs.Builtins.Fields
open CmdletShell.Proofs.Documents.Numerals CmdletShell.Proofs.Documents.Soundness
open CmdletShell.Proofs.Documents.Structure
open CmdletShell.Proofs.Files.Storage CmdletShell.Proofs.Files.Loading
open CmdletShell.Proofs.Files.Overlay (holding)
open CmdletShell.Proofs.Texts.Case CmdletShell.Proofs.Texts.Utf8

/-! ### Manners of revising -/

/-- How a value found in a document revises a setting. -/
inductive Manner
  /-- The value is taken as it is. -/
  | taken
  /-- The fields of an object are written into those that are there. -/
  | merged
  /-- The fields of an object become the aliases. -/
  | aliased
  /-- The items of a list that are of one kind become the list. -/
  | filtered (keep : Value → Bool)

/-- What a value found in a document makes of the old value. -/
def Manner.revise : Manner → Value → Value → Value
  | .taken, found, _ => found
  | .merged, .obj fields, old => Setting.mergeTable old fields
  | .aliased, .obj fields, _ => Value.ofFields (fields.map Setting.readAlias)
  | .filtered keep, .arr items, _ => .arr (items.filter keep)
  | _, _, old => old

/-- The manner of each setting. -/
def manner : Setting → Manner
  | .promptStyles | .completionStyles | .panelStyles | .highlightStyles | .shapeStyles => .merged
  | .extraAliases => .aliased
  | .highlightRules => .filtered Setting.isObject
  | .helpKeys => .filtered Setting.isList
  | _ => .taken

theorem revise_eq (setting : Setting) (found old : Value) :
    setting.revise found old = (manner setting).revise found old := by
  cases setting <;> first | rfl | cases found <;> rfl

/-- What a value that documents have led to looks like, if `first` was there at the start. -/
def Kept (first value : Value) : Manner → Prop
  | .taken => True
  | .merged => ∃ old fields, first = .obj old ∧ value = .obj fields ∧
      (Fields.names fields).Nodup ∧ Fields.names old <+: Fields.names fields
  | .aliased => ∃ fields, value = .obj fields ∧ (Fields.names fields).Nodup ∧
      ∀ field ∈ fields, Setting.readAlias field = field
  | .filtered keep => ∃ items, value = .arr items ∧ ∀ item ∈ items, keep item = true

theorem readAlias_readAlias (field : Text × Value) :
    Setting.readAlias (Setting.readAlias field) = Setting.readAlias field := by
  unfold Setting.readAlias
  simp only [lower_lower]
  rfl

section
variable {first value : Value} {way : Manner}

/-- **A value that is found again is what it was.** -/
theorem Kept.revise_self (h : Kept first value way) :
    way.revise value value = value ∧ way.revise value first = value := by
  cases way with
  | taken => exact ⟨rfl, rfl⟩
  | merged =>
    obtain ⟨old, fields, rfl, rfl, hn, hp⟩ := h
    refine ⟨?_, ?_⟩
    · exact congrArg Value.obj (update_of_isPrefix List.prefix_rfl hn)
    · exact congrArg Value.obj (update_of_isPrefix hp hn)
  | aliased =>
    obtain ⟨fields, rfl, hn, hr⟩ := h
    have hmap : fields.map Setting.readAlias = fields := by
      rw [List.map_congr_left hr, List.map_id']
    have hfields : Value.ofFields (fields.map Setting.readAlias) = .obj fields := by
      rw [hmap, Value.ofFields, update_of_nodup fields (by simpa using hn), List.nil_append]
    exact ⟨hfields, hfields⟩
  | filtered keep =>
    obtain ⟨items, rfl, hk⟩ := h
    have hitems : items.filter keep = items := List.filter_eq_self.mpr hk
    exact ⟨congrArg Value.arr hitems, congrArg Value.arr hitems⟩

/-- **Revising keeps it so.** -/
theorem Kept.revise (h : Kept first value way) (found : Value) :
    Kept first (way.revise found value) way := by
  cases way with
  | taken => trivial
  | merged =>
    cases found with
    | obj changes =>
      obtain ⟨old, fields, rfl, rfl, hn, hp⟩ := h
      exact ⟨old, _, rfl, rfl, nodup_update changes hn,
        hp.trans (names_isPrefix_update changes fields)⟩
    | _ => exact h
  | aliased =>
    cases found with
    | obj changes =>
      refine ⟨_, rfl, nodup_update _ (by simp [Fields.names]), fun field hf => ?_⟩
      rcases mem_update _ hf with hf | hf
      · cases hf
      · obtain ⟨change, -, rfl⟩ := List.mem_map.mp hf
        exact readAlias_readAlias change
    | _ => exact h
  | filtered keep =>
    cases found with
    | arr items => exact ⟨_, rfl, fun item hi => (List.mem_filter.mp hi).2⟩
    | _ => exact h

/-- What is found in a document and what is there are sound, and so is what becomes of them. -/
theorem sound_revise (way : Manner) {found : Value} (hf : Sound found) (hv : Sound value) :
    Sound (way.revise found value) := by
  cases way with
  | taken => exact hf
  | merged =>
    cases hf with
    | obj hn hs =>
      cases hv with
      | obj hn' hs' =>
        refine .obj (nodup_update _ hn') fun field hm => ?_
        exact (mem_update _ hm).elim (hs' field) (hs field)
      | _ => exact sound_ofFields hs
    | _ => exact hv
  | aliased =>
    cases hf with
    | obj hn hs =>
      refine sound_ofFields fun field hm => ?_
      obtain ⟨change, -, rfl⟩ := List.mem_map.mp hm
      exact .str _
    | _ => exact hv
  | filtered keep =>
    cases hf with
    | arr hs => exact .arr fun item hi => hs item (List.mem_filter.mp hi).1
    | _ => exact hv

end

/-! ### The settings at the start -/

theorem sound_textTable {fields : Fields Text} (h : (Fields.names fields).Nodup) :
    Sound (Setting.textTable fields) := by
  unfold Setting.textTable State.textFields
  refine .obj ?_ fun field hf => ?_
  · simpa [Fields.names, Function.comp_def] using h
  · obtain ⟨given, -, rfl⟩ := List.mem_map.mp hf
    exact .str _

theorem sound_textPairs (pairs : List (Text × Text)) : Sound (Setting.textPairs pairs) := by
  refine .arr fun item hi => ?_
  obtain ⟨pair, -, rfl⟩ := List.mem_map.mp hi
  refine .arr fun text ht => ?_
  simp only [List.mem_cons, List.not_mem_nil, or_false] at ht
  rcases ht with rfl | rfl
  · exact .str _
  · exact .str _

theorem sound_bordered (colour : Text) : Sound (Setting.bordered colour) := by
  refine .obj (by simp [Fields.names]) fun field hf => ?_
  simp only [List.mem_cons, List.not_mem_nil, or_false] at hf
  rcases hf with rfl | rfl | rfl | rfl
  · exact .str _
  · refine .arr fun item hi => ?_
    simp only [List.mem_cons, List.not_mem_nil, or_false] at hi
    rcases hi with rfl | rfl <;> exact .int (readable_of_lt (by decide))
  · exact .str _
  · exact .bool _

theorem sound_panelStyles : Sound (.obj Setting.initialPanelStyles) := by
  refine .obj (by decide) fun field hf => ?_
  simp only [Setting.initialPanelStyles, List.mem_cons, List.not_mem_nil, or_false] at hf
  rcases hf with rfl | rfl | rfl | rfl | rfl <;> exact sound_bordered _

theorem sound_rules : Sound (.arr Setting.initialRules) := by
  refine .arr fun rule hr => ?_
  simp only [Setting.initialRules, List.mem_cons, List.not_mem_nil, or_false] at hr
  rcases hr with rfl | rfl | rfl | rfl | rfl <;> exact sound_textTable (by simp [Fields.names])

theorem sound_initial (setting : Setting) : Sound (Setting.initial setting) := by
  cases setting with
  | homeLocation | promptPrefix | welcomeMessage | logLevel | promptLexer => exact .str _
  | startupBanner | timing | completionPopup | highlighting => exact .bool _
  | extraAliases => exact .obj List.nodup_nil (by simp)
  | helpKeys | helpCommands => exact sound_textPairs _
  | promptStyles | completionStyles | shapeStyles | highlightStyles =>
    exact sound_textTable (by decide)
  | panelStyles => exact sound_panelStyles
  | highlightRules => exact sound_rules

theorem kept_initial (setting : Setting) :
    Kept (Setting.initial setting) (Setting.initial setting) (manner setting) := by
  have hs := sound_initial setting
  cases setting with
  | promptStyles | completionStyles | panelStyles | shapeStyles | highlightStyles =>
    exact ⟨_, _, rfl, rfl, hs.nodup, List.prefix_rfl⟩
  | extraAliases => exact ⟨[], rfl, List.nodup_nil, by simp⟩
  | highlightRules => exact ⟨_, rfl, by decide⟩
  | helpKeys => exact ⟨_, rfl, by decide⟩
  | _ => trivial

/-! ### Settings that files lead to -/

/-- The settings that files lead to from those at the start. -/
inductive Reached : Settings → Prop
  /-- No file has been loaded. -/
  | initial : Reached Settings.initial
  /-- One more file is loaded. -/
  | load {settings after : Settings} {storage : Storage} {path : Path} : Reached settings →
      settings.load storage path = .ok (some after) → Reached after

/-- What holds of settings that files lead to. -/
structure Carried (settings : Settings) : Prop where
  kept : ∀ setting, Kept (Setting.initial setting) (settings setting) (manner setting)
  sound : ∀ setting, Sound (settings setting)
  others : ∀ setting : Setting, setting.place? = none → settings setting = Setting.initial setting

theorem carried_initial : Carried Settings.initial where
  kept := kept_initial
  sound := sound_initial
  others := fun _ _ => rfl

variable {settings : Settings} {document : Value}

theorem sound_find? (h : Sound document) {setting : Setting} {found : Value}
    (hf : setting.find? document = some found) : Sound found := by
  have hget : ∀ {name : Text} {value inner : Value}, Sound value →
      value.get? name = some inner → Sound inner := by
    intro name value inner hv hi
    cases hv with
    | obj hn hs => exact hs _ (mem_of_get? hi)
    | _ => cases hi
  unfold Setting.find? at hf
  obtain ⟨⟨part, key⟩, -, hat⟩ := Option.bind_eq_some_iff.mp hf
  obtain ⟨inner, hinner, hat⟩ := Option.bind_eq_some_iff.mp hat
  obtain ⟨value, hvalue, hat⟩ := Option.bind_eq_some_iff.mp hat
  cases hat
  exact hget (hget h hinner) hvalue

theorem Carried.overlay (h : Carried settings) (hd : Sound document) :
    Carried (settings.overlay document) := by
  -- the document has nothing for the setting, or revises it with a sound value
  have hcase : ∀ setting, settings.overlay document setting = settings setting ∨
      ∃ found, Sound found ∧ setting.place? ≠ none ∧
        settings.overlay document setting = (manner setting).revise found (settings setting) := by
    intro setting
    unfold Settings.overlay
    cases hf : setting.find? document with
    | none => exact Or.inl rfl
    | some found =>
      refine Or.inr ⟨found, sound_find? hd hf, fun hp => ?_, revise_eq setting found _⟩
      rw [Setting.find?, hp] at hf
      cases hf
  refine ⟨fun setting => ?_, fun setting => ?_, fun setting hp => ?_⟩
  · rcases hcase setting with heq | ⟨found, -, -, heq⟩
    · rw [heq]
      exact h.kept setting
    · rw [heq]
      exact (h.kept setting).revise found
  · rcases hcase setting with heq | ⟨found, hs, -, heq⟩
    · rw [heq]
      exact h.sound setting
    · rw [heq]
      exact sound_revise _ hs (h.sound setting)
  · rcases hcase setting with heq | ⟨found, -, hne, -⟩
    · rw [heq]
      exact h.others setting hp
    · exact absurd hp hne

theorem carried_of_reached (h : Reached settings) : Carried settings := by
  induction h with
  | initial => exact carried_initial
  | @load settings after storage path _ hload ih =>
    have hrun := load_run storage path settings
    rw [hload] at hrun
    cases hrun with
    | accepted _ _ hr => exact ih.overlay (read_sound hr)

/-! ### The document of the settings -/

/-- A setting that a document can hold is found in the document of the settings. -/
theorem find?_document (settings : Settings) (setting : Setting) (hp : setting.place? ≠ none) :
    setting.find? settings.document = some (settings setting) := by
  cases setting <;> first | rfl | exact absurd rfl hp

theorem sound_section (h : ∀ setting, Sound (settings setting)) (part : Setting.Section) :
    Sound (settings.sectionField part).2 := by
  refine .obj ?_ fun field hf => ?_
  · -- the names do not depend on the values
    have hnames : Fields.names ((Setting.ofSection part).filterMap settings.field?) =
        Fields.names ((Setting.ofSection part).filterMap Settings.initial.field?) := by
      cases part <;> rfl
    rw [hnames]
    cases part <;> decide
  · obtain ⟨setting, -, hfield⟩ := List.mem_filterMap.mp hf
    obtain ⟨place, -, rfl⟩ := Option.map_eq_some_iff.mp hfield
    exact h setting

theorem sound_document (h : ∀ setting, Sound (settings setting)) : Sound settings.document := by
  refine .obj ?_ fun field hf => ?_
  · have hnames : Fields.names (([.general, .session, .ui] : List Setting.Section).map
        settings.sectionField) = ["general", "session", "ui"] := rfl
    rw [hnames]
    decide
  · obtain ⟨part, -, rfl⟩ := List.mem_map.mp hf
    exact sound_section h part

/-- **The document of the settings gives them back**, laid over them or over those at the start. -/
theorem Carried.overlay_document (h : Carried settings) :
    settings.overlay settings.document = settings ∧
      Settings.initial.overlay settings.document = settings := by
  have hsetting : ∀ setting, settings.overlay settings.document setting = settings setting ∧
      Settings.initial.overlay settings.document setting = settings setting := by
    intro setting
    unfold Settings.overlay
    by_cases hp : setting.place? = none
    · have hnone : setting.find? settings.document = none := by
        rw [Setting.find?, hp]
        rfl
      rw [hnone]
      exact ⟨rfl, (h.others setting hp).symm⟩
    · rw [find?_document settings setting hp]
      simp only [revise_eq]
      exact (h.kept setting).revise_self
  exact ⟨funext fun setting => (hsetting setting).1, funext fun setting => (hsetting setting).2⟩

/-- The bytes of the settings file hold the document of the settings. -/
theorem Carried.readDocument (h : Carried settings) :
    Settings.readDocument settings.fileBytes = .ok (some settings.document) := by
  have hread : Json.read (Json.writeIndented false settings.document) = .ok settings.document :=
    read_written (spaced_indented false) (sound_document h.sound)
  unfold Settings.readDocument Settings.fileBytes
  rw [decode?_encode]
  dsimp only
  rw [hread]
  rfl

/-- **The settings file gives the settings back.** -/
theorem Carried.load (h : Carried settings) {storage : Storage} {path : Path}
    (hb : storage.read? path = some settings.fileBytes) :
    settings.load storage path = .ok (some settings) ∧
      Settings.initial.load storage path = .ok (some settings) := by
  obtain ⟨hself, hinitial⟩ := h.overlay_document
  rw [load_eq hb, load_eq hb, h.readDocument]
  exact ⟨congrArg (fun s => Except.ok (some s)) hself,
    congrArg (fun s => Except.ok (some s)) hinitial⟩

/-! ### Loading the settings file again -/

section
variable {site : Site} {storage made : Storage} {bytes : List Nat} {name : Text}

/-- A settings file that is there keeps its bytes. -/
theorem reload_keeps (settings : Settings) (h : storage.read? site.settings = some bytes) :
    (settings.reload site storage).2.read? site.settings = some bytes := by
  cases hm : storage.makeDirectory site.directory with
  | error fault =>
    rw [reload_of_error hm]
    exact h
  | ok made =>
    rw [reload_of_ensure (ensure_of_node? hm (read?_eq_some.mp h))]
    exact (makeDirectory_extends hm).read? h

/-- A settings file that is missing is made in the directory of the program, and loaded. -/
theorem Carried.reload (h : Carried settings) (hs : site.settings = site.directory.child name)
    (hn : name ≠ ['.', '.']) (hm : storage.makeDirectory site.directory = .ok made)
    (hd : made.node? site.directory = some .directory) (hfree : made.node? site.settings = none) :
    ∃ after, settings.reload site storage = (.ok (some settings), after) ∧
      after.read? site.settings = some settings.fileBytes := by
  rw [hs] at hfree
  obtain ⟨written, hwrite, -, hread⟩ := write?_child hn hd hfree settings.fileBytes
  rw [← hs] at hfree hwrite hread
  have hensure : settings.ensure site storage = .ok written := by
    rw [ensure_of_made hm, hfree, hwrite]
    rfl
  refine ⟨written, ?_, hread⟩
  rw [reload_of_ensure hensure, (h.load hread).1]

end

/-- A file with an alias in upper case that stands for a number. -/
def tuning : Text := "\x7b\"session\":\x7b\"aliases\":\x7b\"LL\":7\x7d\x7d\x7d"

/-- What the file holds. -/
def tuningFields : Fields Value := [("session", .obj [("aliases", .obj [("LL", .int 7)])])]

/-- The settings that the file leads to. -/
def tuned : Settings := Settings.initial.overlay (.obj tuningFields)

end CmdletShell.Proofs.Files.Written
