import CmdletShell.Settings.Basic
import CmdletShell.Text.Blank

/-!
# Settings and the environment

Four settings yield to a variable of the environment: the home, the log level, the prompt lexer,
and whether output is highlighted.
-/

namespace CmdletShell

/-- The variables of the environment. -/
abbrev Environment := Fields Text

namespace Environment

/-- The variables that settings yield to. -/
def names : List Text :=
  ["PSIM_HOME_LOCATION", "PSIM_LOG_LEVEL", "PSIM_PROMPT_LEXER", "PSIM_HIGHLIGHTER"]

/-- The value of a variable without white space around it, if it is not blank. -/
def filled? (environment : Environment) (name : Text) : Option Text :=
  match environment.get? name with
  | some value => if (Text.strip value).isEmpty then none else some (Text.strip value)
  | none => none

/-- The value of a variable without white space around it, if it is not empty. -/
def given? (environment : Environment) (name : Text) : Option Text :=
  match environment.get? name with
  | some value => if value.isEmpty then none else some (Text.strip value)
  | none => none

/-- Reads a word that means yes or no. -/
def readSwitch? (word : Text) : Option Bool :=
  let no : List Text := ["0", "false", "no", "off"]
  let yes : List Text := ["1", "true", "yes", "on"]
  if no.contains word then some false else if yes.contains word then some true else none

/-- A variable that means yes or no. -/
def switch? (environment : Environment) (name : Text) : Option Bool :=
  (environment.get? name).bind fun value => readSwitch? (Text.lower (Text.strip value))

end Environment

namespace Settings

/-- The home of a new session. -/
def home (settings : Settings) (environment : Environment) : Value :=
  match environment.filled? "PSIM_HOME_LOCATION" with
  | some path => .str path
  | none => settings .homeLocation

/-- The name of the least level that is logged. -/
def levelName (settings : Settings) (environment : Environment) : Text :=
  match environment.filled? "PSIM_LOG_LEVEL" with
  | some name => Text.upper name
  | none => Text.upper (settings .logLevel).show

/-- The name of the lexer that colours what is typed. -/
def lexerChoice (settings : Settings) (environment : Environment) : Value :=
  match environment.given? "PSIM_PROMPT_LEXER" with
  | some name => .str name
  | none => settings .promptLexer

/-- Whether output is highlighted. -/
def highlighted (settings : Settings) (environment : Environment) : Value :=
  match environment.switch? "PSIM_HIGHLIGHTER" with
  | some answer => .bool answer
  | none => settings .highlighting

end Settings

end CmdletShell
