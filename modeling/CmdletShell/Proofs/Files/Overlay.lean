import CmdletShell.Proofs.Files.Loading

/-!
# Settings after files

Files are loaded one after another (`answers`). Each one that is absent, a document, or malformed is
answered with yes exactly if it holds an object, and with no it changes nothing. What the settings
are in the end is told by the objects that were accepted, setting by setting (`Overlaid`): a plain
setting has the last value found at its place, a table of styles has been updated by all objects
found there, and the aliases and the two lists come from the last object or list found there.

The induction is on the files (`answers_eq`). What is left is a fold over the values found for one
setting (`foldl_overlay`), and but for the tables each of them replaces the ones before it
(`foldl_replace`).
-/

namespace CmdletShell.Proofs.Files.Overlay

open CmdletShell.Text CmdletShell.Proofs.Files.Loading

/-! ### Files and answers -/

/-- A file that is to be loaded. -/
structure Call where
  /-- The stored files at that time. -/
  storage : Storage
  /-- The path of the file. -/
  path : Path

namespace Call

/-- The file is absent, or holds a document, or a text that is none. -/
inductive Readable (call : Call) : Prop
  /-- There is no file. -/
  | absent : call.storage.read? call.path = none → call.Readable
  /-- The text of the file is a document. -/
  | document {bytes text value} : call.storage.read? call.path = some bytes →
      Utf8.decode? bytes = some text → Json.read text = .ok value → call.Readable
  /-- The text of the file does not follow the grammar. -/
  | malformed {bytes text} : call.storage.read? call.path = some bytes →
      Utf8.decode? bytes = some text → Json.read text = .error .malformed → call.Readable

/-- The object that the file means, if there is a file and it means one. -/
def object? (call : Call) : Option (Fields Value) :=
  match call.storage.read? call.path with
  | none => none
  | some bytes =>
    match (Utf8.decode? bytes).map Json.read with
    | some (.ok (.obj fields)) => some fields
    | _ => none

/-- What loading the file answers, and the settings after it. -/
def answer (call : Call) (settings : Settings) : Except Fault (Bool × Settings) :=
  (settings.load call.storage call.path).map fun loaded =>
    (loaded.isSome, loaded.getD settings)

end Call

/-- The answers for files that are loaded one after another, and the settings after them. -/
def answers (settings : Settings) : List Call → Except Fault (List Bool × Settings)
  | [] => .ok ([], settings)
  | call :: calls => do
    let (yes, next) ← call.answer settings
    let (more, final) ← answers next calls
    return (yes :: more, final)

/-! ### What the files amount to -/

/-- The values that objects have under a key of a section, in order. -/
def found (part key : Text) (objects : List (Fields Value)) : List Value :=
  objects.filterMap fun fields => Value.at? [part, key] (.obj fields)

/-- The fields of a value that is an object. -/
def object? : Value → Option (Fields Value)
  | .obj fields => some fields
  | _ => none

/-- The items of a value that is a list. -/
def list? : Value → Option (List Value)
  | .arr items => some items
  | _ => none

/-- The settings that take any value, and where it is found. -/
def plain : List (Setting × Text × Text) :=
  [(.welcomeMessage, "general", "welcome_message"),
    (.startupBanner, "general", "show_startup_banner"),
    (.logLevel, "general", "log_level"),
    (.homeLocation, "session", "home_location"),
    (.promptPrefix, "session", "prompt_prefix"),
    (.timing, "ui", "show_timing"),
    (.promptLexer, "ui", "choice_prompt_lexer"),
    (.completionPopup, "ui", "completion_auto_popup"),
    (.highlighting, "ui", "highlighter_enabled")]

/-- The tables of styles, and where they are found. -/
def tables : List (Setting × Text × Text) :=
  [(.promptStyles, "ui", "prompt_styles"),
    (.completionStyles, "ui", "completion_styles"),
    (.panelStyles, "ui", "panel_styles"),
    (.highlightStyles, "ui", "highlighter_styles"),
    (.shapeStyles, "ui", "output_shape_styles")]

/-- An alias in lower case, with its target as a text. -/
def aliasOf (field : Text × Value) : Text × Value :=
  (lower field.1, .str field.2.show)

/-- **The settings after objects have been laid over them.** -/
structure Overlaid (initial : Settings) (objects : List (Fields Value)) (final : Settings) :
    Prop where
  plain : ∀ place ∈ plain,
    final place.1 = (found place.2.1 place.2.2 objects).getLast?.getD (initial place.1)
  tables : ∀ place ∈ tables, ∀ fields, initial place.1 = .obj fields →
    final place.1 =
      .obj (((found place.2.1 place.2.2 objects).filterMap object?).foldl Fields.update fields)
  aliases : final .extraAliases =
    ((((found "session" "aliases" objects).filterMap object?).getLast?.map fun fields =>
      Value.ofFields (fields.map aliasOf)).getD (initial .extraAliases))
  rules : final .highlightRules =
    ((((found "ui" "highlighter_rules" objects).filterMap list?).getLast?.map fun items =>
      Value.arr (items.filter fun item => (object? item).isSome)).getD (initial .highlightRules))
  keys : final .helpKeys =
    ((((found "ui" "help_keybinds" objects).filterMap list?).getLast?.map fun items =>
      Value.arr (items.filter fun item => (list? item).isSome)).getD (initial .helpKeys))
  commands : final .helpCommands = initial .helpCommands

/-- The settings after objects have been laid over them one after another. -/
def overlayAll (initial : Settings) (objects : List (Fields Value)) : Settings :=
  objects.foldl (fun settings fields => settings.overlay (.obj fields)) initial

/-! ### One file after another -/

theorem object?_eq_some {call : Call} {fields : Fields Value} :
    call.object? = some fields ↔ ∃ bytes text, call.storage.read? call.path = some bytes ∧
      Utf8.decode? bytes = some text ∧ Json.read text = .ok (.obj fields) := by
  unfold Call.object?
  constructor
  · intro h
    split at h
    · cases h
    · next bytes hb =>
      split at h
      · next found hf =>
        obtain ⟨text, ht, hr⟩ := Option.map_eq_some_iff.mp hf
        cases h
        exact ⟨bytes, text, hb, ht, hr⟩
      · cases h
  · rintro ⟨bytes, text, hb, ht, hr⟩
    rw [hb]
    dsimp only
    rw [ht, Option.map_some, hr]

theorem Call.Readable.not_broken {call : Call} (h : call.Readable) (fault : Fault) :
    ¬ Broken call.storage call.path fault := by
  intro hbroken
  cases h <;> cases hbroken <;> simp_all

/-- A readable file is laid over the settings if it means an object. -/
theorem load_of_readable {call : Call} (h : call.Readable) (settings : Settings) :
    settings.load call.storage call.path =
      .ok (call.object?.map fun fields => settings.overlay (.obj fields)) := by
  have hrun := load_run call.storage call.path settings
  generalize settings.load call.storage call.path = loaded at hrun
  cases hrun with
  | absent hb => simp [Call.object?, hb]
  | undecodable hb ht => exact absurd (.undecodable hb ht) (h.not_broken _)
  | refused hb ht hr => exact absurd (.refused hb ht hr) (h.not_broken _)
  | malformed hb ht hr => simp [Call.object?, hb, ht, hr]
  | @other bytes text value hb ht hr ho =>
    cases value with
    | obj fields => cases ho
    | _ => simp [Call.object?, hb, ht, hr]
  | accepted hb ht hr => simp [Call.object?, hb, ht, hr]

/-- Files are answered, and those that mean an object are laid over the settings. -/
theorem answers_eq : ∀ (calls : List Call) (initial : Settings), (∀ call ∈ calls, call.Readable) →
    answers initial calls =
      .ok (calls.map (·.object?.isSome), overlayAll initial (calls.filterMap Call.object?))
  | [], _, _ => rfl
  | call :: calls, initial, h => by
    have hload := load_of_readable (h call List.mem_cons_self) initial
    have ih := fun settings => answers_eq calls settings fun call hc => h call (.tail _ hc)
    rw [answers, Call.answer, hload]
    dsimp only [bind, Except.bind, Except.map]
    rw [ih]
    cases ho : call.object? with
    | none => simp [ho, pure, Except.pure]
    | some fields => simp [ho, overlayAll, pure, Except.pure]

/-! ### One setting -/

/-- What is found for a setting is revised in turn. -/
theorem foldl_overlay {setting : Setting} {part : Setting.Section} {key : Text}
    (hp : setting.place? = some (part, key)) : ∀ (objects : List (Fields Value))
    (initial : Settings), overlayAll initial objects setting =
      (found part.name key objects).foldl (fun old value => setting.revise value old)
        (initial setting)
  | [], _ => rfl
  | fields :: objects, initial => by
    have hfind : setting.find? (.obj fields) = Value.at? [part.name, key] (.obj fields) := by
      unfold Setting.find?
      rw [hp]
      rfl
    have ih := foldl_overlay hp objects (initial.overlay (.obj fields))
    rw [overlayAll] at ih ⊢
    rw [List.foldl_cons, ih, found, found, List.filterMap_cons, Settings.overlay, hfind]
    cases Value.at? [part.name, key] (.obj fields) with
    | none => rfl
    | some value => rfl

/-- A setting that no document holds stays. -/
theorem overlayAll_of_place?_eq_none {setting : Setting} (hp : setting.place? = none) :
    ∀ (objects : List (Fields Value)) (initial : Settings),
      overlayAll initial objects setting = initial setting
  | [], _ => rfl
  | fields :: objects, initial => by
    have hfind : setting.find? (.obj fields) = none := by
      unfold Setting.find?
      rw [hp]
      rfl
    have ih := overlayAll_of_place?_eq_none hp objects (initial.overlay (.obj fields))
    rw [overlayAll] at ih ⊢
    rw [List.foldl_cons, ih, Settings.overlay, hfind]

/-- Where what is picked replaces what was there, the last one picked stays. -/
theorem foldl_replace {α : Type} (pick : Value → Option α) (make : α → Value) :
    ∀ (values : List Value) (old : Value),
      values.foldl (fun old value => ((pick value).map make).getD old) old =
        ((values.filterMap pick).getLast?.map make).getD old
  | [], _ => rfl
  | value :: values, old => by
    rw [List.foldl_cons, foldl_replace pick make values, List.filterMap_cons]
    cases pick value with
    | none => rfl
    | some picked =>
      rw [List.getLast?_cons]
      cases (values.filterMap pick).getLast? <;> rfl

/-- Tables are updated in turn. -/
theorem foldl_mergeTable : ∀ (values : List Value) (fields : Fields Value),
    values.foldl (fun old value =>
        match value with
        | .obj changes => Setting.mergeTable old changes
        | _ => old) (.obj fields) =
      .obj ((values.filterMap object?).foldl Fields.update fields)
  | [], _ => rfl
  | value :: values, fields => by
    rw [List.foldl_cons, List.filterMap_cons]
    cases value with
    | obj changes => exact foldl_mergeTable values (fields.update changes)
    | _ => exact foldl_mergeTable values fields

theorem overlayAll_plain (initial : Settings) (objects : List (Fields Value))
    (place : Setting × Text × Text) (h : place ∈ plain) :
    overlayAll initial objects place.1 =
      (found place.2.1 place.2.2 objects).getLast?.getD (initial place.1) := by
  have hplace : ∃ part : Setting.Section, part.name = place.2.1 ∧
      place.1.place? = some (part, place.2.2) ∧ ∀ value old, place.1.revise value old = value := by
    simp only [plain, List.mem_cons, List.not_mem_nil, or_false] at h
    rcases h with rfl | rfl | rfl | rfl | rfl | rfl | rfl | rfl | rfl
    all_goals exact ⟨_, rfl, rfl, fun _ _ => rfl⟩
  obtain ⟨part, hname, hp, hrevise⟩ := hplace
  have hlast := foldl_replace some id (found place.2.1 place.2.2 objects) (initial place.1)
  rw [foldl_overlay hp, hname]
  simpa [hrevise] using hlast

theorem overlayAll_tables (initial : Settings) (objects : List (Fields Value))
    (place : Setting × Text × Text) (h : place ∈ tables) (fields : Fields Value)
    (hi : initial place.1 = .obj fields) :
    overlayAll initial objects place.1 =
      .obj (((found place.2.1 place.2.2 objects).filterMap object?).foldl
        Fields.update fields) := by
  have hplace : ∃ part : Setting.Section, part.name = place.2.1 ∧
      place.1.place? = some (part, place.2.2) ∧ ∀ value old, place.1.revise value old =
        match value with
        | .obj changes => Setting.mergeTable old changes
        | _ => old := by
    simp only [tables, List.mem_cons, List.not_mem_nil, or_false] at h
    rcases h with rfl | rfl | rfl | rfl | rfl
    all_goals exact ⟨_, rfl, rfl, fun _ _ => rfl⟩
  obtain ⟨part, hname, hp, hrevise⟩ := hplace
  rw [foldl_overlay hp, hname, hi, ← foldl_mergeTable]
  simp only [hrevise]

/-- The aliases and the lists are those of the last value of the right kind. -/
theorem overlayAll_replace {α : Type} {setting : Setting} {part : Setting.Section} {key : Text}
    (hp : setting.place? = some (part, key)) (pick : Value → Option α) (make : α → Value)
    (hr : ∀ value old, setting.revise value old = ((pick value).map make).getD old)
    (initial : Settings) (objects : List (Fields Value)) :
    overlayAll initial objects setting =
      (((found part.name key objects).filterMap pick).getLast?.map make).getD
        (initial setting) := by
  rw [foldl_overlay hp, ← foldl_replace]
  simp only [hr]

theorem overlayAll_overlaid (initial : Settings) (objects : List (Fields Value)) :
    Overlaid initial objects (overlayAll initial objects) where
  plain := overlayAll_plain initial objects
  tables := overlayAll_tables initial objects
  aliases := by
    have hp : Setting.place? .extraAliases =
        some (Setting.Section.session, ("aliases" : Text)) := rfl
    refine overlayAll_replace hp object? _ (fun value old => ?_) initial objects
    cases value <;> rfl
  rules := by
    have hp : Setting.place? .highlightRules =
        some (Setting.Section.ui, ("highlighter_rules" : Text)) := rfl
    refine overlayAll_replace hp list? _ (fun value old => ?_) initial objects
    have hkind : Setting.isObject = fun item => (object? item).isSome := by
      funext item
      cases item <;> rfl
    cases value <;> simp only [Setting.revise, list?, hkind] <;> rfl
  keys := by
    have hp : Setting.place? .helpKeys =
        some (Setting.Section.ui, ("help_keybinds" : Text)) := rfl
    refine overlayAll_replace hp list? _ (fun value old => ?_) initial objects
    have hkind : Setting.isList = fun item => (list? item).isSome := by
      funext item
      cases item <;> rfl
    cases value <;> simp only [Setting.revise, list?, hkind] <;> rfl
  commands := overlayAll_of_place?_eq_none rfl objects initial

/-- **Loading is a lawful overlay.** A file that is readable is answered with yes exactly if it
means an object, and changes nothing if not; after any number of them each setting is what the
objects, in order, make of its value at the start. -/
theorem answers_overlaid (initial : Settings) (calls : List Call)
    (h : ∀ call ∈ calls, call.Readable) :
    (∀ call ∈ calls, ∀ settings, ∃ yes after, call.answer settings = .ok (yes, after) ∧
      (yes = true ↔ ∃ bytes text fields, call.storage.read? call.path = some bytes ∧
        Utf8.decode? bytes = some text ∧ Json.read text = .ok (.obj fields)) ∧
      (yes = false → after = settings)) ∧
    ∃ final, answers initial calls = .ok (calls.map (·.object?.isSome), final) ∧
      Overlaid initial (calls.filterMap Call.object?) final := by
  constructor
  · intro call hc settings
    refine ⟨call.object?.isSome, (call.object?.map fun fields =>
      settings.overlay (.obj fields)).getD settings, ?_, ?_, ?_⟩
    · rw [Call.answer, load_of_readable (h call hc)]
      cases call.object? <;> rfl
    · rw [Option.isSome_iff_exists]
      constructor
      · rintro ⟨fields, hf⟩
        obtain ⟨bytes, text, hb, ht, hr⟩ := object?_eq_some.mp hf
        exact ⟨bytes, text, fields, hb, ht, hr⟩
      · rintro ⟨bytes, text, fields, hb, ht, hr⟩
        exact ⟨fields, object?_eq_some.mpr ⟨bytes, text, hb, ht, hr⟩⟩
    · intro hno
      rw [Option.isSome_eq_false_iff, Option.isNone_iff_eq_none] at hno
      rw [hno]
      rfl
  · exact ⟨_, answers_eq calls initial h, overlayAll_overlaid initial _⟩

/-- A storage with one file. -/
def holding (text : Text) : Call where
  storage := ⟨[("c.json", .file (Utf8.encode text))]⟩
  path := ⟨[], ["c.json"]⟩

/-- No file, a text that is no document, an object, and a list. -/
def mixed : List Call :=
  [⟨{}, ⟨[], ["c.json"]⟩⟩, holding "\x7b", holding "\x7b\"ui\":\x7b\"show_timing\":0\x7d\x7d",
    holding "[]"]

/-- Only the object counts, and only for the setting that it has. -/
theorem answers_overlaid_mixed :
    (∀ call ∈ mixed, call.Readable) ∧
    ∃ final, answers Settings.initial mixed = .ok ([false, false, true, false], final) ∧
      final .timing = .int 0 ∧ final .promptPrefix = .str "PS" := by
  have hread : ∀ text, (holding text).storage.read? (holding text).path =
      some (Utf8.encode text) := fun _ => rfl
  have hbrace : Json.read "\x7b" = .error .malformed := by cbv
  have hobject : Json.read "\x7b\"ui\":\x7b\"show_timing\":0\x7d\x7d" =
      .ok (.obj [("ui", .obj [("show_timing", .int 0)])]) := by cbv
  have hlist : Json.read "[]" = .ok (.arr []) := by cbv
  have hdecode : Utf8.decode? (Utf8.encode "\x7b\"ui\":\x7b\"show_timing\":0\x7d\x7d") =
      some ("\x7b\"ui\":\x7b\"show_timing\":0\x7d\x7d" : Text) := by decide +kernel
  have h : ∀ call ∈ mixed, call.Readable := by
    intro call hc
    simp only [mixed, List.mem_cons, List.not_mem_nil, or_false] at hc
    rcases hc with rfl | rfl | rfl | rfl
    · exact .absent rfl
    · exact .malformed (hread _) (by decide +kernel) hbrace
    · exact .document (hread _) hdecode hobject
    · exact .document (hread _) (by decide +kernel) hlist
  have hmissing : (⟨{}, ⟨[], ["c.json"]⟩⟩ : Call).object? = none := rfl
  have hbroken : (holding "\x7b").object? = none := by
    rw [← Option.not_isSome_iff_eq_none]
    decide +kernel
  have hfields : (holding "\x7b\"ui\":\x7b\"show_timing\":0\x7d\x7d").object? =
      some ([("ui", .obj [("show_timing", .int 0)])] : Fields Value) :=
    object?_eq_some.mpr ⟨_, _, hread _, hdecode, hobject⟩
  have hitems : (holding "[]").object? = none := by
    rw [← Option.not_isSome_iff_eq_none]
    decide +kernel
  have hyes : mixed.map (·.object?.isSome) = [false, false, true, false] := by
    simp only [mixed, List.map_cons, List.map_nil, hmissing, hbroken, hfields, hitems,
      Option.isSome_none, Option.isSome_some]
  have hobjects : mixed.filterMap Call.object? =
      ([[("ui", .obj [("show_timing", .int 0)])]] : List (Fields Value)) := by
    simp only [mixed, List.filterMap_cons, List.filterMap_nil, hmissing, hbroken, hfields, hitems]
  obtain ⟨final, hfinal, hover⟩ := (answers_overlaid Settings.initial mixed h).2
  rw [hyes] at hfinal
  rw [hobjects] at hover
  refine ⟨h, final, hfinal, ?_, ?_⟩
  · exact hover.plain (.timing, "ui", "show_timing") (by simp [plain])
  · exact hover.plain (.promptPrefix, "session", "prompt_prefix") (by simp [plain])

end CmdletShell.Proofs.Files.Overlay
