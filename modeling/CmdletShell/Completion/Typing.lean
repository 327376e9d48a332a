import CmdletShell.Line.Stage

/-!
# What is being typed

Only the stage after the last pipe matters. Its first word is the command; the last word is the
one being typed, unless a space stands after it.
-/

namespace CmdletShell.Completion

/-- The kind of word that is being typed. -/
inductive Part where
  /-- The name of a command. -/
  | command
  /-- A flag. -/
  | flag
  /-- An argument. -/
  | argument
  deriving DecidableEq, Repr, Inhabited

/-- The name of a kind of word. -/
def Part.name : Part → Text
  | .command => "command"
  | .flag => "flag"
  | .argument => "argument"

/-- What is being typed. -/
structure Typing where
  /-- The command. -/
  command : Text
  /-- The word that is being typed, as far as it goes. -/
  word : Text
  /-- Its kind. -/
  part : Part
  deriving DecidableEq, Repr, Inhabited

/-- The kind of a word after the command. -/
def Part.ofWord (word : Text) : Part :=
  if ['-'].isPrefixOf word then .flag else .argument

/-- What is being typed at the end of a text. -/
def Typing.read (text : Text) : Typing :=
  let stage := Text.stripLeft (Line.afterLastPipe text)
  let ended := Text.endsWith [' '] stage
  match Text.words stage with
  | [] => ⟨[], [], .command⟩
  | command :: rest =>
    if rest.isEmpty && !ended then ⟨command, command, .command⟩
    else
      let word := if ended then [] else rest.getLastD command
      ⟨command, word, .ofWord word⟩

end CmdletShell.Completion
