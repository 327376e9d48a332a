import CmdletShell.Completion.Fuzzy
import CmdletShell.Completion.Typing
import CmdletShell.Interpreter.Basic

/-!
# Completion

The words offered for what is being typed: names of commands, flags of the command, or names of
items.
-/

namespace CmdletShell

/-- A word that is offered. -/
structure Completion where
  /-- The word. -/
  text : Text
  /-- How many characters before the cursor it replaces. -/
  replaces : Nat
  /-- The word as styled pieces. -/
  display : List (Text × Text)
  /-- What is told about the word. -/
  note : Text := []
  deriving DecidableEq, Repr, Inhabited

namespace Completion

/-- The names of commands, with what is told about them. -/
def commandWords (interpreter : Interpreter) : Except Fault (List (Text × Text)) :=
  interpreter.commandNames.mapM fun name =>
    (interpreter.describe name).map fun summary => (name, summary.getD [])

/-- The flags of the command that a word would run. -/
def flagWords (interpreter : Interpreter) (word : Text) : Except Fault (List Text) :=
  (interpreter.command? word).map fun command =>
    match command with
    | some command => command.description.flags
    | none => []

/-- The names of the items of every location. -/
def itemWords : List Text :=
  Cmdlet.demoItems.map fun (_, _, name) => name

/-- The words among which to choose, and what is told about some of them. -/
def wordsFor (interpreter : Interpreter) (typing : Typing) :
    Except Fault (List Text × Fields Text) :=
  match typing.part with
  | .command => do
    let words ← commandWords interpreter
    return (words.map (·.1), words)
  | .flag => do
    let words ← flagWords interpreter typing.command
    return (words, [])
  | .argument => .ok (itemWords, [])

/-- The completions of a word among others. -/
def ofWords (typed : Text) (words : List Text) (notes : Fields Text) : List Completion :=
  (choose typed words).map fun (found, word) =>
    { text := word, replaces := typed.length, display := found.pieces typed word,
      note := (notes.get? word).getD [] }

/-- The completions of the word at the end of a text. -/
def complete (interpreter : Interpreter) (text : Text) : Except Fault (List Completion) := do
  let typing := Typing.read text
  let (words, notes) ← wordsFor interpreter typing
  return ofWords typing.word words notes

end Completion

end CmdletShell
