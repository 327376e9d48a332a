import CmdletShell.Shell.Basic

/-!
# Lines in the shell

* `Shell.runSpecial`: a session command, which the interpreter never sees.
* `Shell.displayResult`: shows the result of a line.
* `Shell.handleLine`: a session command or a line for the interpreter.
-/

namespace CmdletShell.Shell

/-- The session commands. -/
inductive Special where
  /-- Leaves the session. -/
  | exit
  /-- Shows the help. -/
  | help
  /-- Loads the settings again. -/
  | reload
  /-- Cleans up memory. -/
  | cleanUp
  /-- Shows the lines run so far. -/
  | history
  deriving DecidableEq, Repr, Inhabited

/-- The words for each session command. -/
def Special.words : Special → List Text
  | .exit => ["exit", "quit"]
  | .help => ["/help"]
  | .reload => ["/config_reload", "config_reload"]
  | .cleanUp => ["/cleanup_memory"]
  | .history => ["history"]

/-- The session commands. -/
def Special.all : List Special := [.exit, .help, .reload, .cleanUp, .history]

/-- The session command of a line, in any letter case and with white space around it. -/
def Special.read? (line : Text) : Option Special :=
  Special.all.find? fun special => special.words.contains (Text.lower (Text.strip line))

/-- What a line was for. -/
inductive Handled where
  /-- It was a command of the session. -/
  | done
  /-- It ends the session. -/
  | exit
  deriving DecidableEq, Repr, Inhabited

/-- The registered commands by category. -/
def catalogue (registry : Registry) : Display.Catalogue :=
  let descriptions := (registry.commands.map (·.description)).mergeSort fun a b =>
    Text.le a.name b.name
  (Text.sortUnique (descriptions.map (·.category))).map fun category =>
    (category, (descriptions.filter (·.category == category)).map fun description =>
      (description.name, description.summary))

/-- Shows the help. -/
def showHelp : Step Unit := do
  display (Display.help (← settings) (catalogue (← get).interpreter.registry))

/-- Loads the settings file again, and says whether that did anything. -/
def reload : Step Unit := do
  let surroundings := (← get).surroundings
  let (loaded, storage) := surroundings.settings.reload surroundings.site surroundings.storage
  modify fun shell => { shell with surroundings := { surroundings with storage } }
  match ← attempt loaded with
  | some settings =>
    modify fun shell => { shell with surroundings := { shell.surroundings with settings } }
    renewLexer
    display (Display.reloaded settings surroundings.site.settings true)
  | none =>
    renewLexer
    display (Display.reloaded surroundings.settings surroundings.site.settings false)

/-- The next reading of the use of memory, without values if there is none. -/
def readMemory : Step (Fields Value) := do
  match (← get).surroundings.memory with
  | [] => return []
  | reading :: rest =>
    modify fun shell =>
      { shell with surroundings := { shell.surroundings with memory := rest } }
    return reading

/-- Cleans up memory, and shows what that changed. -/
def cleanUp : Step Unit := do
  let before ← readMemory
  let after ← readMemory
  let collected := Text.writeInteger (← get).surroundings.collected
  note .debug ("gc.collect() freed " ++ collected ++ " objects")
  display (Display.memory before after collected)

/-- Runs a session command. -/
def runSpecial (special : Special) : Step Handled := do
  match special with
  | .exit => return .exit
  | .help => showHelp
  | .reload => reload
  | .cleanUp => cleanUp
  | .history => display (Display.history (← settings) (← get).history)
  return .done

/-- Runs a session command, if a line is one. -/
def handleSpecial (line : Text) : Step (Option Handled) := do
  match Special.read? line with
  | some special => return some (← runSpecial special)
  | none => return none

/-- The word that no command has the name of, if a result says so of the first word of a line. -/
def unknownWord? (line : Text) (result : Result) : Option Text :=
  match Line.tokenize line with
  | [] => none
  | word :: _ =>
    if result.error = some (Failure.notRecognized word).message then some word else none

/-- Whether an output asks to clear the screen. -/
def clearsScreen : Value → Bool
  | .str text => text == Cmdlet.clearScreen
  | _ => false

/-- Shows the result of a line: the cleared screen, a name that no command has, or the result
itself. -/
def displayResult (line : Text) (result : Result) : Step Unit := do
  let settings ← settings
  if result.success && clearsScreen result.output then put .clear
  else
    match result.success, unknownWord? line result with
    | false, some word =>
      display (Display.notFound settings line (result.error.getD [])
        ((← get).interpreter.suggest word))
    | _, _ => display (Display.result settings line result)

/-- Runs a line, which goes into the history first, and shows its result. -/
def runLine (line : Text) : Step Unit := do
  modify fun shell => { shell with history := shell.history ++ [line] }
  let (result, interpreter) := (← get).interpreter.execute (some line)
  modify fun shell => { shell with interpreter }
  displayResult line (← attempt result)

/-- Handles what was typed: nothing for a blank line, a session command, or a line for the
interpreter. -/
def handleLine (typed : Text) : Step (Option Handled) := do
  let line := Text.strip typed
  if line.isEmpty then return none
  else
    match ← handleSpecial line with
    | some handled => return some handled
    | none =>
      runLine line
      return none

end CmdletShell.Shell
