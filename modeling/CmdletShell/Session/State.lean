import CmdletShell.Failure
import CmdletShell.Text.Case

/-!
# The state of a session

* `State.create`: a fresh state at a home.
* `State.resolveAlias`: the command behind a word, by one step through the aliases.
* `State.moveTo`: a change of location, which the variable `PWD` follows.
* `State.assign`, `State.load`: writing a variable, adding a module.
-/

namespace CmdletShell

/-- The state of a session. A configuration may give the home, and with it the location, and the
targets of aliases any value. -/
structure State where
  /-- The home location. -/
  home : Value
  /-- The current location. -/
  location : Value
  /-- The variables in order of their first assignment. -/
  bindings : Fields Value
  /-- The target of each alias under its lower case name. -/
  aliases : Fields Value
  /-- The imported modules, each once. -/
  modules : List Text
  deriving Inhabited

namespace State

/-- The home of a session that is given none. -/
def defaultHome : Text := "C:\\Users\\Nishen"

/-- The aliases of every session. -/
def defaultAliases : Fields Text :=
  [("ls", "Get-ChildItem"), ("dir", "Get-ChildItem"), ("cd", "Set-Location"),
    ("pwd", "Get-Location"), ("cat", "Get-Content"), ("type", "Get-Content"),
    ("echo", "Write-Output"), ("ps", "Get-Process"), ("gps", "Get-Process"),
    ("kill", "Stop-Process"), ("cls", "Clear-Host"), ("copy", "Copy-Item"), ("cp", "Copy-Item"),
    ("move", "Move-Item"), ("mv", "Move-Item"), ("del", "Remove-Item"), ("rm", "Remove-Item"),
    ("md", "New-Item"), ("mkdir", "New-Item"), ("iwr", "Invoke-WebRequest"), ("help", "Get-Help")]

/-- The modules of every session. -/
def defaultModules : List Text :=
  ["Microsoft.PowerShell.Core", "Microsoft.PowerShell.Management",
    "Microsoft.PowerShell.Security", "Microsoft.PowerShell.Utility"]

/-- The version table of every session. -/
def versionTable : Fields Text :=
  [("PSVersion", "7.4.0"), ("PSEdition", "Core"), ("Platform", "Win32NT"),
    ("OS", "Microsoft Windows 11"), ("GitCommitId", "7.4.0"), ("WSManStackVersion", "3.0")]

/-- The execution policy of every session. -/
def defaultPolicy : Text := "RemoteSigned"

/-- Fields whose values are texts. -/
def textFields (fields : Fields Text) : Fields Value :=
  fields.map fun (name, text) => (name, .str text)

/-- The profile script of a home. -/
def profilePath (home : Value) : Text :=
  home.show ++ "\\Documents\\PowerShell\\Microsoft.PowerShell_profile.ps1"

/-- The alias table with further aliases, whose names are read in lower case. -/
def addAliases (aliases : Fields Value) (extra : Value) : Except Fault (Fields Value) :=
  match extra with
  | .obj fields =>
    .ok (aliases.update (fields.map fun (name, target) => (Text.lower name, target)))
  | value => if value.truthy then .error (.missingOperation value.kind "items") else .ok aliases

/-- A fresh state at a home, with further aliases. -/
def create (home extraAliases : Value) : Except Fault State := do
  let home := home.orElse (.str defaultHome)
  let aliases ← addAliases (textFields defaultAliases) extraAliases
  return {
    home
    location := home
    bindings :=
      [("PWD", home), ("HOME", home), ("PSVersionTable", .obj (textFields versionTable)),
        ("ExecutionPolicy", .str defaultPolicy), ("PROFILE", .str (profilePath home))]
    aliases
    modules := defaultModules }

section Create
variable {home extraAliases : Value} {state : State}

/-- A fresh session is at its home. -/
theorem location_of_create (h : create home extraAliases = .ok state) :
    state.location = home.orElse (.str defaultHome) ∧ state.home = state.location := by
  unfold create at h
  cases ha : addAliases (textFields defaultAliases) extraAliases with
  | error fault => rw [ha] at h; cases h
  | ok aliases => rw [ha] at h; cases h; exact ⟨rfl, rfl⟩

/-- In a fresh session `PWD` is the location. -/
theorem pwd_of_create (h : create home extraAliases = .ok state) :
    state.bindings.get? "PWD" = some state.location := by
  unfold create at h
  cases ha : addAliases (textFields defaultAliases) extraAliases with
  | error fault => rw [ha] at h; cases h
  | ok aliases => rw [ha] at h; cases h; rfl

/-- In a fresh session `HOME` is the home. -/
theorem homeVariable_of_create (h : create home extraAliases = .ok state) :
    state.bindings.get? "HOME" = some state.home := by
  unfold create at h
  cases ha : addAliases (textFields defaultAliases) extraAliases with
  | error fault => rw [ha] at h; cases h
  | ok aliases => rw [ha] at h; cases h; rfl

/-- The aliases of a fresh session are those of every session and the further ones. -/
theorem aliases_of_create (h : create home extraAliases = .ok state) :
    addAliases (textFields defaultAliases) extraAliases = .ok state.aliases := by
  unfold create at h
  cases ha : addAliases (textFields defaultAliases) extraAliases with
  | error fault => rw [ha] at h; cases h
  | ok aliases => rw [ha] at h; cases h; rfl

end Create

/-- The command behind a word: the alias of its lower case, or the word itself. -/
def resolveAlias (state : State) (word : Text) : Value :=
  (state.aliases.get? (Text.lower word)).getD (.str word)

/-- A change of location, which the variable `PWD` follows. -/
def moveTo (location : Value) (state : State) : State :=
  { state with location, bindings := state.bindings.put "PWD" location }

/-- Writes a variable. -/
def assign (name : Text) (value : Value) (state : State) : State :=
  { state with bindings := state.bindings.put name value }

/-- Adds a module, unless it is there. -/
def load (name : Text) (state : State) : State :=
  if state.modules.contains name then state
  else { state with modules := state.modules ++ [name] }

/-- The value of a variable. -/
def valueOf? (name : Text) (state : State) : Option Value :=
  state.bindings.get? name

end State

end CmdletShell
