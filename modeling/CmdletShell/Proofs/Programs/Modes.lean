import CmdletShell.CommandLine.Run
import CmdletShell.Proofs.Documents.Results
import CmdletShell.Proofs.Files.Written
import CmdletShell.Proofs.Runs.Failures
import CmdletShell.Proofs.Runs.Outputs
import CmdletShell.Proofs.Runs.Reports
import CmdletShell.Proofs.Shells.Usable

/-!
# A line on the command line, as a text and as a document

The result of a line can be shown as a text (`Shown`), the output on the standard output and an
error on the standard error output, or as a document (`Told`) from which it is read back.
`modes_agree` says that both ways show one result and end with one code: that of the line in a new
session of the surroundings, with the settings of the file that the arguments name.

Nothing else is put out (`exists_runCommand_eq`). If the log has no place, its warnings go to the
standard error output, but what a line notes is no warning (`lastResort_of_mild`).
-/

namespace CmdletShell.Proofs.Programs.Modes

open CmdletShell.CommandLine
open CmdletShell.Proofs.Builtins.Handlers
open CmdletShell.Proofs.Documents.Numerals CmdletShell.Proofs.Documents.Results
open CmdletShell.Proofs.Files.Loading CmdletShell.Proofs.Files.Written
open CmdletShell.Proofs.Runs.Execution CmdletShell.Proofs.Runs.Failures
open CmdletShell.Proofs.Runs.Outputs CmdletShell.Proofs.Runs.Reports
open CmdletShell.Proofs.Shells.Needs CmdletShell.Proofs.Shells.Usable

/-! ### Arguments that ask for a line -/

/-- The arguments that ask for a line, with a settings file if one is named; the last one asks for a
document. -/
def arguments (config : Option Text) (line : Text) (asDocument : Bool) : List Text :=
  let file : List Text := match config with
    | some path => ["--config", path]
    | none => []
  let command : List Text := ["-c", line]
  let last : List Text := if asDocument then ["--json"] else []
  file ++ command ++ last

/-- The text begins with no dash. -/
def Undashed (text : Text) : Prop := text.head? ≠ some '-'

instance (text : Text) : Decidable (Undashed text) := inferInstanceAs (Decidable (_ ≠ _))

variable {config : Option Text} {line : Text}

theorem classify_undashed {text : Text} (h : Undashed text) :
    classify text = .ok (.plain text) := by
  unfold classify
  split
  · exact absurd rfl h
  · rfl

theorem classifyAll_cons {text : Text} {argument : Argument} (hd : text ≠ ['-', '-'])
    (h : classify text = .ok argument) (rest : List Text) :
    classifyAll (text :: rest) = (classifyAll rest).map (argument :: ·) := by
  rw [classifyAll, if_neg hd, h]
  cases classifyAll rest <;> rfl

/-- An option in full and its value. -/
theorem classifyAll_valued {spelling value : Text} {flag : Flag}
    (hs : (spelling, flag) ∈ Flag.spellings) (hv : Undashed value) (rest : List Text) :
    classifyAll (spelling :: value :: rest) = (classifyAll rest).map fun found =>
      .option flag spelling .nothing :: .plain value :: found := by
  have hall : ∀ entry ∈ Flag.spellings, entry.1 ≠ ['-', '-'] ∧
      classify entry.1 = .ok (.option entry.2 entry.1 .nothing) := by decide
  obtain ⟨hdashes, hoption⟩ := hall _ hs
  have hvalue : value ≠ ['-', '-'] := by
    rintro rfl
    exact hv rfl
  rw [classifyAll_cons hdashes hoption, classifyAll_cons hvalue (classify_undashed hv)]
  cases classifyAll rest <;> rfl

/-- **The options that the arguments mean.** -/
theorem read_arguments (hl : Undashed line) (hc : ∀ path ∈ config, Undashed path)
    (asDocument : Bool) : Options.read (arguments config line asDocument) =
      .ok { command := some line, config, json := asDocument } := by
  have hconfig : (("--config" : Text), Flag.config) ∈ Flag.spellings := by decide
  have hcommand : (("-c" : Text), Flag.command) ∈ Flag.spellings := by decide
  -- each value is taken by the option before it, so no argument is left over
  cases config with
  | none =>
    have hall : classifyAll (arguments none line asDocument) = _ := classifyAll_valued hcommand hl _
    unfold Options.read
    rw [hall]
    cases asDocument <;> rfl
  | some path =>
    have hall : classifyAll (arguments (some path) line asDocument) = _ :=
      (classifyAll_valued hconfig (hc path rfl) _).trans
        (congrArg _ (classifyAll_valued hcommand hl _))
    unfold Options.read
    rw [hall]
    cases asDocument <;> rfl

variable {given surroundings : Surroundings}

/-- **The program runs the line** with the settings of the file that the arguments name. -/
theorem run_arguments (hl : Undashed line) (hc : ∀ path ∈ config, Undashed path)
    (hs : loadChosen { config } given = .ok surroundings) (asDocument : Bool)
    (script : List Shell.Typed) : run (arguments config line asDocument) given script =
      runCommand { command := some line, config, json := asDocument } surroundings line := by
  have hloaded : loadChosen { command := some line, config, json := asDocument } given =
      .ok surroundings := hs
  unfold run start follow
  rw [read_arguments hl hc]
  dsimp only
  rw [if_neg Bool.false_ne_true, hloaded]
  rfl

/-! ### Surroundings in which lines can be run -/

/-- The timer gives floating point numbers. -/
def Floating (timer : Timer) : Prop := ∀ reading ∈ timer, ∃ x, reading = .float x

/-- A timer that has run out gives a floating zero. -/
theorem Floating.read {timer : Timer} (h : Floating timer) :
    (∃ x, timer.read.1 = .float x) ∧ Floating timer.read.2 := by
  cases timer with
  | nil => exact ⟨⟨_, rfl⟩, nofun⟩
  | cons reading timer => exact List.forall_mem_cons.mp h

/-- **What a line needs**: settings that files lead to, with a level for the log and a text for the
home, the commands and items of the program, and a floating timer. -/
structure Fit (surroundings : Surroundings) : Prop where
  settings : Reached surroundings.settings
  level : ∃ threshold, Threshold.read?
    (surroundings.settings.levelName surroundings.environment) = some threshold
  home : ∃ home, surroundings.settings.home surroundings.environment = .str home
  registry : surroundings.registry = .default
  items : surroundings.context.items = .simulated
  timer : Floating surroundings.timer

/-- A file that is loaded by name leads to the settings. -/
theorem reached_of_loadFile {settings after : Settings} {home : Text} {storage : Storage}
    {file : Path} (hr : Reached settings) (h : settings.loadFile home storage file = .ok after) :
    Reached after := by
  unfold Settings.loadFile at h
  cases he : file.expand home with
  | error fault => rw [he] at h; cases h
  | ok path =>
    rw [he] at h
    dsimp only at h
    split_ifs at h
    split at h
    · cases h
    · cases h
    · next hload =>
      cases h
      exact .load hr hload

theorem reached_of_loadChosen {options : Options} (hr : Reached given.settings)
    (h : loadChosen options given = .ok surroundings) : Reached surroundings.settings := by
  unfold loadChosen at h
  split at h
  · cases h
    exact hr
  · next path _ =>
    cases hf : given.settings.loadFile given.site.home given.storage (Path.read path) with
    | error failure => rw [hf] at h; cases h
    | ok settings =>
      rw [hf] at h
      cases h
      exact reached_of_loadFile hr hf

/-- A new session in such surroundings is textual and has noted nothing. -/
structure Ready (surroundings : Surroundings) (interpreter : Interpreter) : Prop where
  interpreter_eq : surroundings.interpreter = .ok interpreter
  registry : interpreter.registry = .default
  items : interpreter.context.items = .simulated
  textual : Textual interpreter.state
  journal : interpreter.session.journal = []
  timer : Floating interpreter.timer

/-- **There is a new session.** -/
theorem Fit.exists_ready (h : Fit surroundings) :
    ∃ interpreter, Ready surroundings interpreter := by
  obtain ⟨home, hhome⟩ := h.home
  obtain ⟨aliases, haliases⟩ := aliases_of_carried (carried_of_reached h.settings)
  obtain ⟨state, hstate⟩ : ∃ state,
      State.create (.str home) (.obj (State.textFields aliases)) = .ok state := ⟨_, rfl⟩
  refine ⟨⟨surroundings.registry, surroundings.context, ⟨state, []⟩, surroundings.timer⟩,
    ?_, h.registry, h.items, textual_of_create hstate, rfl, h.timer⟩
  have hnull : ∀ value : Value, Value.null.orElse value = value := fun _ => rfl
  unfold Surroundings.interpreter Surroundings.interpreterWith
  dsimp only
  rw [hnull, hhome, if_pos rfl, haliases, hstate]
  rfl

/-! ### The result of the line -/

variable {interpreter : Interpreter} {result : Result}

/-- The result of a line is well formed, puts out a text, and took a time that may be read. -/
structure Reported (interpreter : Interpreter) (line : Text) (result : Result) : Prop where
  result_eq : (interpreter.execute (some line)).1 = .ok result
  wellFormed : WellFormed result
  output : ∃ output, result.output = .str output
  millis : Readable result.millis

/-- **Every line has a result.** -/
theorem Ready.exists_reported (h : Ready surroundings interpreter) (line : Text) :
    ∃ result, Reported interpreter line result := by
  obtain ⟨home, hhome⟩ := h.textual.home
  obtain ⟨location, hlocation⟩ := h.textual.location
  have hplaced : Placed interpreter.state :=
    ⟨⟨home, hhome, trivial⟩, ⟨location, hlocation, trivial⟩⟩
  obtain ⟨result, hres⟩ :=
    (execute_explained h.registry h.items h.textual (some line)).reported
  obtain ⟨hwell, hmillis⟩ := wellFormed_of_execute hres
  obtain ⟨⟨x, hx⟩, htimer⟩ := h.timer.read
  obtain ⟨⟨y, hy⟩, -⟩ := htimer.read
  have hspent : Readable (spent interpreter) := by
    rw [spent, hx, hy]
    exact readable_elapsedMillis x y
  exact ⟨result, hres, hwell, execute_text h.registry hplaced hres, hmillis ▸ hspent⟩

/-- Mild entries are not shown in the last resort. -/
theorem lastResort_of_mild {journal : Journal} (h : ∀ entry ∈ journal, Mild entry)
    (logging : Logging) : logging.lastResort journal = [] := by
  have hnone : (journal.filter logging.threshold.admits).filter
      (Threshold.least .warning).admits = [] := by
    refine List.filter_eq_nil_iff.mpr fun entry he => ?_
    rcases h entry (List.mem_of_mem_filter he) with hl | hl <;>
      simp [Threshold.admits, Threshold.level, hl, Level.rank]
  unfold Logging.lastResort
  split
  · rfl
  · rw [hnone]
    rfl

theorem Fit.exists_configure (h : Fit surroundings) :
    ∃ logging storage, Logging.configure false surroundings.settings surroundings.environment
      surroundings.site surroundings.storage = (.ok logging, storage) := by
  obtain ⟨threshold, hlevel⟩ := h.level
  unfold Logging.configure Logging.thresholdFor
  rw [if_neg Bool.false_ne_true, hlevel]
  exact ⟨_, _, rfl⟩

/-- **The report of a line** is that of its result, and nothing else is put out. -/
theorem exists_runCommand_eq (hf : Fit surroundings) (hr : Ready surroundings interpreter)
    (hres : Reported interpreter line result) (config : Option Text) (asDocument : Bool) :
    ∃ before after,
      runCommand { command := some line, config, json := asDocument } surroundings line =
        { reportResult asDocument before result with storage := after } := by
  obtain ⟨logging, storage, hlogging⟩ := hf.exists_configure
  obtain ⟨noted, hjournal, hmild⟩ := execute_mild hr.registry hr.items hr.textual (some line)
  rw [hr.journal, List.nil_append] at hjournal
  -- the log may have no place
  have hsilent := lastResort_of_mild hmild logging
  refine ⟨storage, logging.write surroundings.site surroundings.context.clock noted
    (reportResult asDocument storage result).storage, ?_⟩
  unfold runCommand
  rw [hlogging, hr.interpreter_eq]
  dsimp only
  rw [hres.result_eq]
  dsimp only
  rw [Report.logged, hjournal, hsilent, List.append_nil]

/-! ### Two ways to show a result -/

/-- The code with which the program ends: that of a success, or of a failure. -/
def codeOf (result : Result) : Nat := if result.success then 0 else 1

/-- **The result is shown as a text.** -/
structure Shown (result : Result) (report : Report) : Prop where
  ending : report.ending = .ok (codeOf result)
  /-- A success puts out its output and a line feed, or nothing if the output is empty. -/
  success : result.success = true → ∃ output, result.output = .str output ∧
    report.out = (if output = [] then [] else output ++ ['\n']) ∧ report.err = []
  /-- A failure puts out its error and a line feed, as an error. -/
  failure : result.success = false → ∃ error, result.error = some error ∧
    report.out = [] ∧ report.err = error ++ ['\n']
  printed : report.printed = []

/-- **The result is told as a document.** -/
structure Told (result : Result) (report : Report) : Prop where
  ending : report.ending = .ok (codeOf result)
  /-- The result is read back from the output. -/
  document : Json.read report.out = .ok result.document
  err : report.err = []
  printed : report.printed = []

theorem shown_reportResult (h : Reported interpreter line result) (storage : Storage) :
    Shown result (reportResult false storage result) := by
  obtain ⟨output, houtput⟩ := h.output
  unfold reportResult
  rw [if_neg Bool.false_ne_true]
  cases hs : result.success with
  | true =>
    rw [if_pos rfl]
    refine ⟨by rw [codeOf, hs], fun _ => ⟨output, houtput, ?_, rfl⟩, by simp [hs], rfl⟩
    dsimp only
    rw [houtput]
    cases output <;> rfl
  | false =>
    obtain ⟨error, herror⟩ : ∃ error, result.error = some error :=
      Option.ne_none_iff_exists'.mp fun hn =>
        Bool.false_ne_true (hs.symm.trans (h.wellFormed.success_iff.mpr hn))
    rw [if_neg Bool.false_ne_true]
    refine ⟨by rw [codeOf, hs], by simp [hs], fun _ => ⟨error, herror, rfl, ?_⟩, rfl⟩
    dsimp only
    rw [herror]
    rfl

theorem told_reportResult (h : Reported interpreter line result) (storage : Storage) :
    Told result (reportResult true storage result) where
  ending := rfl
  document := read_document true h.output h.millis
  err := rfl
  printed := rfl

/-- The surroundings have the same settings and environment, the same commands, clock, chance and
identity, and the same timer. Their files may differ. -/
structure Alike (first second : Surroundings) : Prop where
  settings : second.settings = first.settings
  environment : second.environment = first.environment
  registry : second.registry = first.registry
  context : second.context = first.context
  timer : second.timer = first.timer

theorem Alike.fit {other : Surroundings} (h : Alike surroundings other) (hf : Fit surroundings) :
    Fit other where
  settings := by rw [h.settings]; exact hf.settings
  level := by rw [h.settings, h.environment]; exact hf.level
  home := by rw [h.settings, h.environment]; exact hf.home
  registry := h.registry.trans hf.registry
  items := by rw [h.context]; exact hf.items
  timer := by rw [h.timer]; exact hf.timer

theorem Alike.ready {other : Surroundings} (h : Alike surroundings other)
    (hr : Ready surroundings interpreter) : Ready other interpreter where
  interpreter_eq := by
    rw [← hr.interpreter_eq]
    unfold Surroundings.interpreter Surroundings.interpreterWith
    rw [h.settings, h.environment, h.registry, h.context, h.timer]
  registry := hr.registry
  items := hr.items
  textual := hr.textual
  journal := hr.journal
  timer := hr.timer

/-- A settings file with a home and an alias. -/
def accentedText : Text :=
  "\x7b\"session\": \x7b\"home_location\": \"C:\\\\Été\", " ++
    "\"aliases\": \x7b\"Dis\": \"Write-Output\"\x7d\x7d\x7d"

/-- What the file holds. -/
def accentedFields : Fields Value :=
  [("session", .obj [("home_location", .str "C:\\Été"),
    ("aliases", .obj [("Dis", .str "Write-Output")])])]

/-- Simulated devices and a timer, with the log in a directory. The file is not loaded yet. -/
def unloaded (directory : Text) : Surroundings where
  storage := stored accentedText
  site := .below [] ⟨[], [directory]⟩
  context := (fresh "C:").context
  timer := [.float (.finite false 1 0), .float (.finite false 5 (-2))]

/-- The same surroundings with the settings of the file. -/
def accented (directory : Text) : Surroundings :=
  { unloaded directory with settings := Settings.initial.overlay (.obj accentedFields) }

/-- Where the file is. -/
def accentedPath : Text := "psim-home/config.json"

theorem loadChosen_accented (directory : Text) :
    loadChosen { config := some accentedPath } (unloaded directory) =
      .ok (accented directory) := by
  have hread : Json.read accentedText = .ok (.obj accentedFields) := by cbv
  have hload : Settings.initial.load (stored accentedText) scratch.settings = .ok (some _) :=
    accepted_of_read hread
  have hpath : (Path.read accentedPath).expand [] = .ok scratch.settings := rfl
  have hthere : ((stored accentedText).read? scratch.settings).isNone = false := rfl
  have hfile : Settings.initial.loadFile [] (stored accentedText) (Path.read accentedPath) =
      .ok (Settings.initial.overlay (.obj accentedFields)) := by
    unfold Settings.loadFile
    rw [hpath]
    dsimp only
    rw [hthere, if_neg Bool.false_ne_true, hload]
  unfold loadChosen
  change (Settings.initial.loadFile [] (stored accentedText) (Path.read accentedPath)).map _ = _
  rw [hfile]
  rfl

theorem fit_accented (directory : Text) : Fit (accented directory) where
  settings := reached_of_loadChosen .initial (loadChosen_accented directory)
  level := ⟨.least .warning, rfl⟩
  home := ⟨"C:\\Été", rfl⟩
  registry := rfl
  items := rfl
  timer := by
    intro reading h
    simp only [accented, unloaded, List.mem_cons, List.not_mem_nil, or_false] at h
    rcases h with rfl | rfl <;> exact ⟨_, rfl⟩

theorem alike_accented (directory other : Text) : Alike (accented directory) (accented other) :=
  ⟨rfl, rfl, rfl, rfl, rfl⟩

/-- A line whose output has characters beyond ASCII. -/
def accentedLine : Text := "Dis \"😀 é\""

end CmdletShell.Proofs.Programs.Modes
