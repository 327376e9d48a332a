import CmdletShell.Shell.Line

/-!
# The loop of the shell

The shell greets, sets up the terminal, and reads lines until one ends the session or there are no
more. An interrupt while a line is typed drops that line; an interrupt while a line runs ends the
session.

* `Shell.greet`, `Shell.opening`: what comes before the first line.
* `Shell.turn`: asks for a line and handles the answer.
* `Shell.run`: a whole session from the answers of the terminal.
-/

namespace CmdletShell.Shell

/-- What the terminal answers when it is asked for a line. -/
inductive Typed where
  /-- A line. -/
  | line (text : Text)
  /-- There are no more lines. -/
  | ended
  /-- The user interrupts. -/
  | interrupt
  deriving DecidableEq, Repr, Inhabited

/-- The version of the program. -/
def version : Text := "1.0.0"

/-- The greeting. -/
def greet : Step Unit := do
  display (Display.welcome (← settings) version (← get).interpreter.state.location.show)

/-- Sets up the terminal, once. -/
def opening : Step Unit := do
  let shell ← get
  if shell.isOpen then return ()
  let surroundings := shell.surroundings
  let storage ← attempt (surroundings.settings.ensure surroundings.site surroundings.storage)
  modify fun shell => { shell with surroundings := { shell.surroundings with storage } }
  if surroundings.interrupted then throw .interrupted
  request (.keepHistory surroundings.site.history)
  modify fun shell => { shell with isOpen := true }

/-- Asks for a line. The style sheet has to be in order. -/
def ask : Step Unit := do
  let settings ← settings
  let _ ← attempt settings.styleSheet
  request (.readLine (← prompt) (settings .completionPopup) (← get).lexer)

/-- Handles an answer of the terminal, and tells whether the session goes on. -/
def answered (typed : Typed) : Step Bool := do
  match typed with
  | .interrupt =>
    display (Display.interrupt Display.interruptMessage)
    return true
  | .ended =>
    display Display.goodbye
    return false
  | .line text =>
    match ← handleLine text with
    | some .exit =>
      display Display.goodbye
      return false
    | _ => return true

/-- Asks for a line and handles the answer. An interrupt while the line runs ends the session. -/
def turn (typed : Typed) : Step Bool :=
  tryCatch (do ask; answered typed) fun fault => do
    match fault with
    | .interrupted =>
      display Display.goodbye
      return false
    | fault => throw fault

/-- Turns until one of them ends the session; after the last answer there are no more lines. -/
def turns : List Typed → Step Unit
  | [] => do let _ ← turn .ended
  | typed :: rest => do if ← turn typed then turns rest else return ()

/-- A whole session. -/
def run (script : List Typed) : Step Unit := do
  greet
  opening
  turns script

end CmdletShell.Shell
