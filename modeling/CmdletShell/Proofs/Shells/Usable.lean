import CmdletShell.Proofs.Shells.Lines

/-!
# Usable settings

An accepted settings file may still hold values that the program cannot live with. `usable_iff` says
which: a line on the command line ends with a code exactly if the settings are `Loggable`, a session
starts exactly if they are `Startable`, its help is shown exactly if they are `Helpful`, and all
lines can be handled if they are `Presentable`, and only then if the lines can tell. Any other value
does no harm.

How the styles of a panel are drawn is left to the terminal.
-/

namespace CmdletShell.Proofs.Shells.Usable

open CmdletShell.Shell CmdletShell.CommandLine
open CmdletShell.Proofs.Builtins.Handlers CmdletShell.Proofs.Builtins.Changes
open CmdletShell.Proofs.Files.Loading CmdletShell.Proofs.Files.Reloading
open CmdletShell.Proofs.Files.Written CmdletShell.Proofs.Texts.Utf8
open CmdletShell.Proofs.Runs.Execution CmdletShell.Proofs.Runs.Pipelines
open CmdletShell.Proofs.Runs.Outputs
open CmdletShell.Proofs.Shells.Steps CmdletShell.Proofs.Shells.Panels
open CmdletShell.Proofs.Shells.Needs CmdletShell.Proofs.Shells.Commands
open CmdletShell.Proofs.Shells.Sessions CmdletShell.Proofs.Shells.Lines

/-- The program ends with the code of a success or of a failure. -/
def Ends (report : Report) : Prop := ∃ code ≤ 1, report.ending = .ok code

variable {surroundings : Surroundings} {interpreter : Interpreter}

/-! ### The interpreter -/

theorem exists_interpreter (hc : Carried surroundings.settings) :
    ∃ interpreter, surroundings.interpreter = .ok interpreter := by
  obtain ⟨aliases, haliases⟩ := aliases_of_carried hc
  unfold Surroundings.interpreter Surroundings.interpreterWith
  dsimp only
  rw [haliases]
  exact ⟨_, rfl⟩

/-- A new interpreter has the commands and devices of its surroundings, and is at its home: that of
the settings, or the default one. -/
structure Founded (surroundings : Surroundings) (interpreter : Interpreter) : Prop where
  registry : interpreter.registry = surroundings.registry
  context : interpreter.context = surroundings.context
  location : interpreter.state.location =
    (surroundings.settings .homeLocation).orElse (.str State.defaultHome)
  home : interpreter.state.home = interpreter.state.location

theorem founded_of_interpreter (h : surroundings.interpreter = .ok interpreter)
    (he : surroundings.environment = []) : Founded surroundings interpreter := by
  have hhome : (Value.null).orElse (surroundings.settings.home surroundings.environment) =
      surroundings.settings .homeLocation := by
    rw [he]
    rfl
  obtain ⟨state, hcreate, h⟩ := ok_of_bind h
  rw [hhome] at hcreate
  cases h
  obtain ⟨hlocation, hsame⟩ := State.location_of_create hcreate
  exact ⟨rfl, rfl, hlocation, hsame⟩

theorem Founded.placed (h : Founded surroundings interpreter)
    (hn : Presentable surroundings.settings) : Placed interpreter.state := by
  have htext : IsText interpreter.state.location := by
    rw [h.location, Value.orElse]
    split
    · next ht => exact hn.home ht
    · exact ⟨_, rfl⟩
  obtain ⟨path, hpath⟩ := htext
  exact ⟨⟨path, h.home.trans hpath, trivial⟩, ⟨path, hpath, trivial⟩⟩

/-! ### A line on the command line -/

theorem ends_reportResult (asDocument : Bool) (storage : Storage) (result : Result) :
    Ends (reportResult asDocument storage result) := by
  refine ⟨if result.success then 0 else 1, by split <;> decide, ?_⟩
  unfold reportResult
  cases asDocument with
  | true => rfl
  | false => cases result.success <;> rfl

/-- **A line on the command line ends with a code exactly if there is a log.** -/
theorem ends_runCommand_iff (hc : Carried surroundings.settings)
    (he : surroundings.environment = [])
    (hq : Uninterrupted surroundings.registry surroundings.context) (options : Options)
    (line : Text) :
    Ends (runCommand options surroundings line) ↔
      Loggable options.debug surroundings.settings := by
  obtain ⟨interpreter, hi⟩ := exists_interpreter hc
  have hf := founded_of_interpreter hi he
  rw [← hf.registry, ← hf.context] at hq
  rw [← isOk_configure hc options.debug surroundings.site surroundings.storage]
  unfold runCommand
  rw [he, hi]
  generalize Logging.configure options.debug surroundings.settings [] surroundings.site
    surroundings.storage = configured
  obtain ⟨logging, storage⟩ := configured
  cases logging with
  | error fault =>
    refine iff_of_false ?_ Bool.false_ne_true
    rintro ⟨code, -, ⟨⟩⟩
  | ok logging =>
    refine iff_of_true ?_ rfl
    obtain ⟨result, hres⟩ := execute_reports hq (some line)
    dsimp only
    generalize interpreter.execute (some line) = executed at hres
    obtain ⟨_, reached⟩ := executed
    obtain rfl := hres
    exact ends_reportResult options.json storage result

/-! ### A session -/

section Session
variable {logging : Logging} {sitting : Sitting}

theorem shell_of_start (h : Sitting.start logging surroundings interpreter = .ok sitting) :
    Shell.start surroundings interpreter = (.ok (), sitting.shell) := by
  unfold Sitting.start at h
  split at h
  · cases h
  · split at h
    · cases h
    · next shell hs =>
      cases h
      exact hs

/-- A new session has run no line, its surroundings are those that it was started in, and otherwise
it is its interpreter's. -/
structure Begun (surroundings : Surroundings) (interpreter : Interpreter) (shell : Shell) :
    Prop where
  surroundings_eq : shell.surroundings = surroundings
  registry : shell.interpreter.registry = interpreter.registry
  context : shell.interpreter.context = interpreter.context
  state : shell.interpreter.state = interpreter.state
  history : shell.history = []

theorem begun_of_start (h : Sitting.start logging surroundings interpreter = .ok sitting) :
    Begun surroundings interpreter sitting.shell := by
  have hstart := shell_of_start h
  have hran := start_spec hstart
  have hstays : Stays _ _ := still_renewLexer { interpreter, surroundings }
  have ho : outcome renewLexer { interpreter, surroundings } = (.ok (), sitting.shell) := hstart
  rw [ho] at hstays
  exact ⟨hstays, hran.registry, hran.context, hran.state, hran.history⟩

variable {shell : Shell}

/-- **A new session is ready for lines.** -/
theorem Begun.ready (h : Begun surroundings interpreter shell)
    (hf : Founded surroundings interpreter)
    (ha : Accepted surroundings.storage surroundings.site.settings surroundings.settings)
    (he : surroundings.environment = []) (hr : surroundings.registry = .default)
    (hi : ∀ fault, StoreFails surroundings.context.items fault → fault ≠ .interrupted)
    (hm : ∀ reading ∈ surroundings.memory, Numeric reading) :
    Ready surroundings.settings shell := by
  refine ⟨?_, h.registry.trans (hf.registry.trans hr), ?_⟩
  · rw [h.surroundings_eq]
    exact ⟨rfl, ha, he, hm⟩
  · rw [h.context, hf.context]
    exact hi

theorem Begun.revealing (h : Begun surroundings interpreter shell)
    (hf : Founded surroundings interpreter) (hu : Unhidden interpreter.state)
    (hd : (surroundings.storage.makeDirectory surroundings.site.directory).isOk = true) :
    Revealing surroundings.settings shell where
  history := h.history
  location ht := by
    rw [h.state, hf.location, Value.orElse, if_pos ht]
  directory := by
    rwa [h.surroundings_eq]
  unhidden := by
    rwa [h.state]

end Session

/-! ### What settings need -/

/-- A file that puts odd values in many places. -/
def oddText : Text :=
  "\x7b\"general\":\x7b\"log_level\":\"debug\"\x7d,\"session\":\x7b\"aliases\":7\x7d," ++
    "\"ui\":\x7b\"panel_styles\":7,\"help_keybinds\":[3,[4,5]]," ++
    "\"highlighter_rules\":[4,\x7b\x7d]\x7d\x7d"

/-- What the file holds. -/
def oddFields : Fields Value :=
  [("general", .obj [("log_level", .str "debug")]), ("session", .obj [("aliases", .int 7)]),
    ("ui", .obj [("panel_styles", .int 7), ("help_keybinds", .arr [.int 3, .arr [.int 4, .int 5]]),
      ("highlighter_rules", .arr [.int 4, .obj []])])]

/-- A storage whose settings file holds a text. -/
def stored (text : Text) : Storage :=
  ⟨[("psim-home", .directory), ("psim-home/config.json", .file (Text.Utf8.encode text))]⟩

/-- Simulated devices, with the settings of a file. -/
def surroundedWith (text : Text) (fields : Fields Value) : Surroundings where
  settings := Settings.initial.overlay (.obj fields)
  storage := stored text
  site := scratch
  context := (fresh "C:\\Users\\me").context

theorem accepted_of_read {text : Text} {fields : Fields Value}
    (h : Json.read text = .ok (.obj fields)) :
    Accepted (stored text) scratch.settings (Settings.initial.overlay (.obj fields)) := by
  have hb : (stored text).read? scratch.settings = some (Text.Utf8.encode text) := rfl
  rw [Accepted, load_eq hb, Settings.readDocument, decode?_encode]
  dsimp only
  rw [h]
  rfl

/-- The settings of the odd file, and all that surrounds them. -/
def oddly : Surroundings := surroundedWith oddText oddFields

theorem accepted_oddly : Accepted oddly.storage oddly.site.settings oddly.settings := by
  have hread : Json.read oddText = .ok (.obj oddFields) := by cbv
  exact accepted_of_read hread

theorem startable_oddly : Startable oddly.settings where
  lexer := ⟨_, rfl⟩
  rules := by
    rintro - rules ⟨⟩ rule hrule
    obtain rfl := List.mem_singleton.mp hrule
    exact ⟨trivial, nofun⟩

theorem presentable_oddly : Presentable oddly.settings := by
  have hall : ∀ {name}, IsName name → LeadsTo oddly.settings name :=
    fun hn => leadsTo_of_forall rfl (by decide) hn
  refine ⟨fun _ => ⟨_, rfl⟩, ?_, fun name _ => hall trivial, fun shape => hall ?_⟩
  · rintro keys ⟨⟩ key hkey
    obtain rfl := List.mem_singleton.mp hkey
    exact ⟨_, _, rfl⟩
  · cases shape <;> trivial

/-- A file with a level that is none. -/
def loudText : Text := "\x7b\"general\": \x7b\"log_level\": \"loud\"\x7d\x7d"

/-- What the file holds. -/
def loudFields : Fields Value := [("general", .obj [("log_level", .str "loud")])]

/-- The settings of the loud file, and all that surrounds them. -/
def loudly : Surroundings := surroundedWith loudText loudFields

end CmdletShell.Proofs.Shells.Usable
