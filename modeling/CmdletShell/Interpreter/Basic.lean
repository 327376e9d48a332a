import CmdletShell.Cmdlet.Builtin
import CmdletShell.Interpreter.Result
import CmdletShell.Line.Pipeline
import CmdletShell.Line.Token
import CmdletShell.Text.Quoted

/-!
# The interpreter

* `Interpreter.runStage`: one command: its tokens, the alias of the first one, the registry.
* `Interpreter.runLine`: a command or a pipeline.
* `Interpreter.execute`: runs a line and reports what came of it. Only an interrupt gets through;
  every other failure becomes a result.
-/

namespace CmdletShell

/-- The readings of a timer that are still to come, in seconds. -/
abbrev Timer := List Number

/-- The next reading, zero if there is none, and the ones after it. -/
def Timer.read : Timer → Number × Timer
  | [] => (.float (Binary64.zero false), [])
  | reading :: rest => (reading, rest)

/-- An interpreter: commands, surroundings, and a session. -/
structure Interpreter where
  /-- The commands. -/
  registry : Registry := .default
  /-- What surrounds the commands. -/
  context : Context
  /-- The session. -/
  session : Session
  /-- The timer. -/
  timer : Timer := []

namespace Interpreter

/-- The part of the program that notes what became of a line. -/
def source : Text := "psim.core.interpreter"

/-- What a failure without words is reported with. -/
def unknownError : Text := "Unknown error occurred"

/-- Runs one command. A line without a token names no command. -/
def runStage (registry : Registry) (context : Context) (line : Text) : Action Reply :=
  match Line.tokenize line with
  | [] => throw (.notRecognized line)
  | typed :: args => do
    let state ← Action.state
    registry.dispatch context (state.resolveAlias typed) args typed

/-- Runs a stage of a pipeline, noting it first. -/
def runNumbered (registry : Registry) (context : Context) (count index : Nat) (stage : Text) :
    Action Reply := do
  Action.note .debug "psim.core.pipeline" ("Pipeline stage " ++ Text.writeNatural (index + 1) ++
    "/" ++ Text.writeNatural count ++ ": " ++ stage)
  runStage registry context stage

/-- Runs a command or a pipeline. -/
def runLine (registry : Registry) (context : Context) (line : Text) : Action Reply :=
  if Line.isPipeline line then
    Line.runPipeline (runNumbered registry context (Line.stages line).length) line
  else runStage registry context line

/-- The words with which a failure is reported. -/
def report (failure : Failure) : Text :=
  if failure.isDeliberate || !failure.message.isEmpty then failure.message else unknownError

/-- The entries that a failure of a line leaves. -/
def failureEntries (line : Text) (failure : Failure) : Journal :=
  (if failure.isDeliberate then []
    else [⟨.error, source, "Unexpected failure while running " ++ Text.quoted line⟩]) ++
    [⟨.info, source, "Command failed: " ++ line ++ " (" ++ report failure ++ ")"⟩]

/-- The entry that a success of a line leaves. -/
def successEntry (line : Text) (millis : Nat) : Entry :=
  ⟨.debug, source, line ++ " completed in " ++ Text.writeNatural millis ++ " ms"⟩

/-- The result of a success. -/
def succeeded (reply : Reply) (millis : Nat) : Result :=
  { success := true, output := reply.output, millis, shape := reply.shape }

/-- The result of a failure. -/
def failed (failure : Failure) (millis : Nat) : Result :=
  { success := false, output := .str [], millis, error := some (report failure) }

/-- Adds entries to the journal. -/
def noting (entries : Journal) (session : Session) : Session :=
  { session with journal := session.journal ++ entries }

/-- Runs a line without white space around it that is not empty. -/
def executeLine (interpreter : Interpreter) (line : Text) (started : Number) :
    Except Fault Result × Interpreter :=
  let action := runLine interpreter.registry interpreter.context line
  match action.outcome interpreter.session with
  | (.error (.fault .interrupted), session) =>
    (.error .interrupted, { interpreter with session })
  | (outcome, session) =>
    let (stopped, timer) := interpreter.timer.read
    let millis := elapsedMillis started stopped
    match outcome with
    | .ok reply =>
      (.ok (succeeded reply millis),
        { interpreter with timer, session := noting [successEntry line millis] session })
    | .error failure =>
      (.ok (failed failure millis),
        { interpreter with timer, session := noting (failureEntries line failure) session })

/-- Runs a line, or none, and reports what came of it. -/
def execute (interpreter : Interpreter) (line : Option Text) : Except Fault Result × Interpreter :=
  let (started, timer) := interpreter.timer.read
  let interpreter := { interpreter with timer }
  let line := Text.strip (line.getD [])
  if line.isEmpty then
    let (stopped, timer) := interpreter.timer.read
    (.ok (succeeded (.text []) (elapsedMillis started stopped)), { interpreter with timer })
  else interpreter.executeLine line started

/-- The state of the session. -/
def state (interpreter : Interpreter) : State :=
  interpreter.session.state

/-- Changes the state of the session. -/
def change (f : State → State) (interpreter : Interpreter) : Interpreter :=
  { interpreter with session := { interpreter.session with state := f interpreter.state } }

/-- The text that asks for a line. -/
def prompt (interpreter : Interpreter) : Text :=
  "PS " ++ interpreter.state.location.show ++ "> "

/-- The names of the commands and the aliases in code point order, each once. -/
def commandNames (interpreter : Interpreter) : List Text :=
  Text.sortUnique (interpreter.registry.names ++ interpreter.state.aliases.names)

/-- The command that a word would run. -/
def command? (interpreter : Interpreter) (word : Text) : Except Fault (Option Command) :=
  interpreter.registry.lookup (interpreter.state.resolveAlias word)

/-- The summary of the command that a word would run. -/
def describe (interpreter : Interpreter) (word : Text) : Except Fault (Option Text) :=
  (interpreter.command? word).map fun command => command.map (·.description.summary)

end Interpreter

end CmdletShell
