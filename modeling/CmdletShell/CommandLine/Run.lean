import CmdletShell.CommandLine.Options
import CmdletShell.Logging
import CmdletShell.Shell.Loop

/-!
# The program

What the program does with its arguments: it tells about itself, loads settings, runs one line, or
starts an interactive session.

* `Report`: what the program puts out and leaves behind.
* `Sitting`: an interactive session that is under way.
* `start`: the session that arguments ask for, or the report if they ask for none.
* `run`: the report for arguments, surroundings, and the answers of the terminal.
-/

namespace CmdletShell.CommandLine

/-- What the program puts out and leaves behind. -/
structure Report where
  /-- The exit code, or what the program broke down with. -/
  ending : Except Fault Nat
  /-- The standard output. -/
  out : Text := []
  /-- The standard error output. -/
  err : Text := []
  /-- The stored files. -/
  storage : Storage
  /-- What has been put on the screen. -/
  printed : List Display.Printed := []
  /-- What has been asked of the terminal. -/
  requests : List Request := []

namespace Report

/-- A report of an output. -/
def output (storage : Storage) (out : Text) : Report :=
  { ending := .ok 0, out, storage }

/-- A report of an error. -/
def error (storage : Storage) (code : Nat) (err : Text) : Report :=
  { ending := .ok code, err, storage }

/-- A report of a breakdown. -/
def broken (storage : Storage) (fault : Fault) : Report :=
  { ending := .error fault, storage }

/-- The report with the journal in the log. -/
def logged (logging : Logging) (surroundings : Surroundings) (journal : Journal)
    (report : Report) : Report :=
  { report with
    err := report.err ++ logging.lastResort journal
    storage :=
      logging.write surroundings.site surroundings.context.clock journal report.storage }

end Report

/-- What the program puts out for the result of a line. -/
def reportResult (asDocument : Bool) (storage : Storage) (result : Result) : Report :=
  let code := if result.success then 0 else 1
  if asDocument then
    { ending := .ok code, out := Json.writeIndented true result.document ++ ['\n'], storage }
  else if result.success then
    { ending := .ok code, storage,
      out := if result.output.truthy then result.output.show ++ ['\n'] else [] }
  else { ending := .ok code, err := (result.error.getD []) ++ ['\n'], storage }

/-- Runs one line. -/
def runCommand (options : Options) (surroundings : Surroundings) (line : Text) : Report :=
  let (logging, storage) := Logging.configure options.debug surroundings.settings
    surroundings.environment surroundings.site surroundings.storage
  match logging, surroundings.interpreter with
  | .error fault, _ => .broken storage fault
  | .ok _, .error fault => .broken storage fault
  | .ok logging, .ok interpreter =>
    let (result, interpreter) := interpreter.execute (some line)
    let report := match result with
      | .error fault => Report.broken storage fault
      | .ok result => reportResult options.json storage result
    report.logged logging surroundings interpreter.session.journal

/-- A session that is under way: what is logged, and the shell. -/
structure Sitting where
  /-- What is logged. -/
  logging : Logging
  /-- The shell. -/
  shell : Shell

namespace Sitting

/-- The report at the end of a session: a farewell if the user interrupted. -/
def close (sitting : Sitting) (result : Except Fault Unit) : Report :=
  let shell := sitting.shell
  let report : Report :=
    { ending := result.map fun _ => 0, storage := shell.surroundings.storage,
      printed := shell.printed, requests := shell.requests }
  let report := match result with
    | .error .interrupted => { report with ending := .ok 0, out := "\nBye!\n" }
    | _ => report
  report.logged sitting.logging shell.surroundings shell.interpreter.session.journal

/-- A shell around an interpreter, or the report of its breakdown. -/
def start (logging : Logging) (surroundings : Surroundings) (interpreter : Interpreter) :
    Except Report Sitting :=
  match surroundings.settings.consoleHighlighter surroundings.environment with
  | .error fault => .error (close ⟨logging, { interpreter, surroundings }⟩ (.error fault))
  | .ok _ =>
    match Shell.start surroundings interpreter with
    | (.error fault, shell) => .error (close ⟨logging, shell⟩ (.error fault))
    | (.ok _, shell) => .ok ⟨logging, shell⟩

/-- A session, or the report of what breaks down before there is one. -/
def prepare (options : Options) (surroundings : Surroundings) : Except Report Sitting :=
  match surroundings.settings.ensure surroundings.site surroundings.storage with
  | .error fault => .error (.broken surroundings.storage fault)
  | .ok storage =>
    let (logging, storage) := Logging.configure options.debug surroundings.settings
      surroundings.environment surroundings.site storage
    let surroundings := { surroundings with storage }
    match logging, surroundings.interpreter with
    | .error fault, _ => .error (.broken storage fault)
    | .ok _, .error fault => .error (.broken storage fault)
    | .ok logging, .ok interpreter => start logging surroundings interpreter

/-- The report of a whole session from the answers of the terminal. -/
def play (sitting : Sitting) (script : List Shell.Typed) : Report :=
  let (result, shell) := StateT.run (ExceptT.run (Shell.run script)) sitting.shell
  { sitting with shell }.close result

end Sitting

/-- Loads the settings file of the program again. -/
def runReload (surroundings : Surroundings) : Report :=
  match surroundings.settings.reload surroundings.site surroundings.storage with
  | (.error fault, storage) => .broken storage fault
  | (.ok (some _), storage) => .output storage "Configuration reloaded successfully\n"
  | (.ok none, storage) => .output storage "Failed to reload configuration\n"

/-- The surroundings with the settings of the file that the options name. -/
def loadChosen (options : Options) (surroundings : Surroundings) :
    Except LoadFailure Surroundings :=
  match options.config with
  | none => .ok surroundings
  | some path =>
    (surroundings.settings.loadFile surroundings.site.home surroundings.storage
      (Path.read path)).map fun settings => { surroundings with settings }

/-- What the program does with its options: a session, or a report if there is none. -/
def follow (options : Options) (surroundings : Surroundings) : Except Report Sitting :=
  if options.version then
    .error (.output surroundings.storage ("psim version " ++ Shell.version ++ "\n"))
  else match loadChosen options surroundings with
    | .error (.fault fault) => .error (.broken surroundings.storage fault)
    | .error failure =>
      .error (.error surroundings.storage 1 ("Error: " ++ failure.message ++ "\n"))
    | .ok surroundings =>
      if options.configReload then .error (runReload surroundings)
      else match options.command with
        | some line => .error (runCommand options surroundings line)
        | none => Sitting.prepare options surroundings

/-- What the program does with its arguments: a session, or a report if there is none. -/
def start (arguments : List Text) (surroundings : Surroundings) : Except Report Sitting :=
  match Options.read arguments with
  | .ok options => follow options surroundings
  | .error .help => .error (.output surroundings.storage helpText)
  | .error (.usage message) => .error (.error surroundings.storage 2 (usageError message))

/-- The report of the program from its arguments and the answers of the terminal. -/
def run (arguments : List Text) (surroundings : Surroundings) (script : List Shell.Typed) :
    Report :=
  match start arguments surroundings with
  | .error report => report
  | .ok sitting => sitting.play script

end CmdletShell.CommandLine
