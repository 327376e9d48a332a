import CmdletShell.Text.Basic

/-!
# The journal of a session

What a session notes for whoever keeps its log: each entry has a level, a source and a message.
-/

namespace CmdletShell

/-- How much an entry matters. -/
inductive Level where
  /-- Of interest when looking for an error. -/
  | debug
  /-- A usual event. -/
  | info
  /-- Something unexpected. -/
  | warning
  /-- A failure inside. -/
  | error
  /-- A failure that ends the program. -/
  | critical
  deriving DecidableEq, Repr, Inhabited

namespace Level

/-- The name of a level. -/
def name : Level → Text
  | .debug => "DEBUG"
  | .info => "INFO"
  | .warning => "WARNING"
  | .error => "ERROR"
  | .critical => "CRITICAL"

/-- The rank of a level among all. -/
def rank : Level → Nat
  | .debug => 10
  | .info => 20
  | .warning => 30
  | .error => 40
  | .critical => 50

end Level

/-- An entry of the journal. -/
structure Entry where
  /-- How much the entry matters. -/
  level : Level
  /-- The part of the program that made it. -/
  source : Text
  /-- What happened. -/
  message : Text
  deriving DecidableEq, Repr, Inhabited

/-- The entries in order. -/
abbrev Journal := List Entry

end CmdletShell
