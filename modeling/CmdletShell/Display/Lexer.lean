import CmdletShell.Text.Case

/-!
# Lexers

What colours a line while it is typed, found by one of its names in any letter case.
-/

namespace CmdletShell

/-- A lexer. -/
inductive Lexer where
  /-- For the command language. -/
  | powerShell
  /-- For the shell of other systems. -/
  | bash
  /-- For a scripting language. -/
  | python
  /-- For documents. -/
  | json
  deriving DecidableEq, Repr, Inhabited

namespace Lexer

/-- The name under which the terminal knows a lexer. -/
def name : Lexer → Text
  | .powerShell => "PowerShellLexer"
  | .bash => "BashLexer"
  | .python => "PythonLexer"
  | .json => "JsonLexer"

/-- The names by which a lexer is chosen. -/
def choices : Lexer → List Text
  | .powerShell => ["powershell", "pwsh", "posh", "ps1"]
  | .bash => ["bash"]
  | .python => ["python"]
  | .json => ["json"]

/-- The lexers. -/
def all : List Lexer := [.powerShell, .bash, .python, .json]

/-- The lexer chosen by a name. -/
def ofChoice? (choice : Text) : Option Lexer :=
  all.find? fun lexer => lexer.choices.contains (Text.lower choice)

end Lexer

end CmdletShell
