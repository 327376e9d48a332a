import CmdletShell.Display.Lexer
import CmdletShell.Display.Markup
import CmdletShell.Display.StyleSheet
import CmdletShell.Display.View
import CmdletShell.Interpreter.Suggestion
import CmdletShell.Settings.Environment
import CmdletShell.Settings.File

/-!
# The interactive shell

A shell holds an interpreter and all that surrounds it at a terminal.

* `Surroundings`: settings, stored files, environment and devices, from which a shell is made.
* `Shell`: the state of an interactive session.
* `Shell.Step`: what the shell does next; what it did before it broke stays done.
-/

namespace CmdletShell

/-- What a shell is started in. -/
structure Surroundings where
  /-- The settings. -/
  settings : Settings := Settings.initial
  /-- The stored files. -/
  storage : Storage := {}
  /-- The environment. -/
  environment : Environment := []
  /-- Where the program keeps its files. -/
  site : Site
  /-- What surrounds the commands. -/
  context : Context
  /-- The commands. -/
  registry : Registry := .default
  /-- The readings of the timer. -/
  timer : Timer := []
  /-- The readings of the use of memory, by name. -/
  memory : List (Fields Value) := []
  /-- How many objects are freed when memory is cleaned up. -/
  collected : Int := 0
  /-- Whether the user interrupts while the terminal is set up. -/
  interrupted : Bool := false

namespace Surroundings

/-- A fresh interpreter with a home and further aliases; where null stands for them, or anything
that counts as no for the home, they come from the settings. -/
def interpreterWith (home extraAliases : Value) (surroundings : Surroundings) :
    Except Fault Interpreter := do
  let settings := surroundings.settings
  let home := home.orElse (settings.home surroundings.environment)
  let aliases := if extraAliases matches .null then settings .extraAliases else extraAliases
  let state ← State.create home aliases
  return {
    registry := surroundings.registry
    context := surroundings.context
    session := ⟨state, []⟩
    timer := surroundings.timer }

/-- A fresh interpreter as the settings want it. -/
def interpreter (surroundings : Surroundings) : Except Fault Interpreter :=
  surroundings.interpreterWith .null .null

end Surroundings

/-- What the shell asks of the terminal. -/
inductive Request where
  /-- To keep the lines that are typed in a file. -/
  | keepHistory (path : Path)
  /-- To read a line: the prompt as styled pieces, whether completions pop up, and the lexer. -/
  | readLine (prompt : List (Text × Text)) (popup : Value) (lexer : Option Lexer)
  deriving Inhabited

/-- An interactive session. -/
structure Shell where
  /-- The interpreter. -/
  interpreter : Interpreter
  /-- What the shell was started in; settings and stored files may change. -/
  surroundings : Surroundings
  /-- The lines run so far, without the session commands. -/
  history : List Text := []
  /-- The lexer of the prompt. -/
  lexer : Option Lexer := none
  /-- Whether the terminal is set up. -/
  isOpen : Bool := false
  /-- What has been put on the screen. -/
  printed : List Display.Printed := []
  /-- What has been asked of the terminal. -/
  requests : List Request := []

namespace Shell

/-- What the shell does next. -/
abbrev Step := ExceptT Fault (StateM Shell)

/-- The value of a computation that may break down. -/
def attempt {α : Type} (result : Except Fault α) : Step α :=
  match result with
  | .ok value => pure value
  | .error fault => throw fault

/-- The settings. -/
def settings : Step Settings :=
  return (← get).surroundings.settings

/-- Puts one thing on the screen. -/
def put (thing : Display.Printed) : Step Unit :=
  modify fun shell => { shell with printed := shell.printed ++ [thing] }

/-- Puts a view on the screen, up to where it breaks. -/
def display (view : Display.View) : Step Unit :=
  view.forM fun thing => do put (← attempt thing)

/-- Asks something of the terminal. -/
def request (request : Request) : Step Unit :=
  modify fun shell => { shell with requests := shell.requests ++ [request] }

/-- The part of the program that notes what the shell does. -/
def source : Text := "psim.core.shell"

/-- Notes an entry. -/
def note (level : Level) (message : Text) : Step Unit :=
  modify fun shell =>
    { shell with
      interpreter :=
        { shell.interpreter with
          session := Interpreter.noting [⟨level, source, message⟩] shell.interpreter.session } }

/-- Chooses the lexer of the prompt: none for a blank choice and for `auto`, and none for an
unknown name, which is noted. -/
def chooseLexer : Step (Option Lexer) := do
  let surroundings := (← get).surroundings
  let choice := surroundings.settings.lexerChoice surroundings.environment
  let name := Text.strip (← attempt (Display.textOf "strip" choice))
  if name.isEmpty || Text.lower name = "auto" then return none
  else match Lexer.ofChoice? name with
    | some lexer => return some lexer
    | none =>
      note .warning ("Unknown prompt lexer " ++ Text.quoted name ++ ", highlighting disabled")
      return none

/-- Chooses the lexer of the prompt anew. -/
def renewLexer : Step Unit := do
  let lexer ← chooseLexer
  modify fun shell => { shell with lexer }

/-- The prompt as styled pieces. -/
def prompt : Step (List (Text × Text)) := do
  let shell ← get
  attempt (Display.promptFragments (shell.surroundings.settings .promptPrefix)
    shell.interpreter.state.location)

/-- A shell around an interpreter, as it is started. -/
def start (surroundings : Surroundings) (interpreter : Interpreter) :
    Except Fault Unit × Shell :=
  StateT.run (ExceptT.run renewLexer) { interpreter, surroundings }

end Shell

end CmdletShell
