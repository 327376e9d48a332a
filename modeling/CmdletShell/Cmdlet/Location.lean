import CmdletShell.Argument.Operand
import CmdletShell.Command.Basic
import CmdletShell.Layout.Table
import CmdletShell.Location

/-!
# Commands for locations and contents

`Get-Location`, `Set-Location`, `Get-ChildItem`, `Get-Content` and `Test-Path`.
-/

namespace CmdletShell.Cmdlet

open Argument

/-- Texts that make a path count as existing. -/
def knownPaths : List Text :=
  ["C:\\", "C:\\Users", "C:\\Windows", "~", "$HOME"]

/-- The items of every location: mode, length and name. -/
def demoItems : List (Text × Text × Text) :=
  [("d-----", "", "Documents"), ("d-----", "", "Desktop"), ("d-----", "", "Downloads"),
    ("d-----", "", "Projects"), ("-a----", "1234", "DevOps-Studio.lnk"),
    ("-a----", "567", "README.txt")]

/-- The content of every file with `readme` in its name. -/
def readmeBody : Text :=
  "# Welcome to Nishen's DevOps Studio

This is a fully operational PowerShell environment running in your terminal.

Features:
- Real PowerShell cmdlets
- Pipeline support
- Variable management
- Module system

Enjoy the full PowerShell experience!"

/-- The content of every script. -/
def scriptBody : Text :=
  "# PowerShell Script
Write-Host \"Hello from PowerShell!\"
Get-Date
Get-Location"

/-- The current location. -/
def getLocation : Command where
  description := {
    name := "Get-Location"
    summary := "Gets the current working location"
    category := "Location" }
  handler := .reading fun _ state _ => .ok { output := state.location }

/-- Where `Set-Location` goes without an argument. -/
def homeVariable (state : State) : Value :=
  (state.valueOf? "HOME").getD state.home

/-- The target of `Set-Location`: the first argument, whatever it is, else the home. -/
def locationTarget (state : State) : List Text → Value
  | target :: _ => .str target
  | [] => homeVariable state

/-- A change of location. -/
def setLocation : Command where
  description := {
    name := "Set-Location"
    summary := "Sets the current working location"
    usage := "Set-Location [path | ~ | ..]"
    category := "Location" }
  handler := .changing fun _ state args =>
    match Location.follow state.location (locationTarget state args) state.home with
    | .ok location => .ok (Reply.text [], state.moveTo location)
    | .error fault => .error (.fault fault)

/-- The list of the items at a path. -/
def getChildItem : Command where
  description := {
    name := "Get-ChildItem"
    summary := "Gets the items in a location"
    usage := "Get-ChildItem [path]"
    category := "Location" }
  handler := .reading fun context state args =>
    let path := (present (firstPositional [] args)).getD state.location.show
    let date := context.clock.shortDate
    let rows := demoItems.map fun (mode, length, name) => [mode, date, length, name]
    let table := Layout.table
      [⟨"Mode", 10⟩, ⟨"LastWriteTime", 20⟩, ⟨"Length", 10⟩, ⟨"Name", 0⟩] rows
    .ok (Reply.table ("Directory: " ++ path ++ "\n\n" ++ table))

/-- The content of a path. -/
def contentOf (path : Text) : Text :=
  let name := Text.lower path
  if Text.includes "readme" name then readmeBody
  else if Text.endsWith ".ps1" name then scriptBody
  else "Sample content for: " ++ path ++ "\nThis is a demonstration of Get-Content cmdlet."

/-- The content of a file. -/
def getContent : Command where
  description := {
    name := "Get-Content"
    summary := "Gets the content of a file"
    usage := "Get-Content <path>"
    category := "Location" }
  handler := .reading fun _ _ args =>
    match present (firstPositional [] args) with
    | none => .error (.missing "Get-Content" "Path"
        "Cannot bind argument to parameter \"Path\" because it is null.")
    | some path => .ok (Reply.text (contentOf path))

/-- Whether a path counts as existing. -/
def pathExists (path : Text) : Bool :=
  knownPaths.any fun known => Text.includes (Text.lower known) (Text.lower path)

/-- A test of a path. -/
def testPath : Command where
  description := {
    name := "Test-Path"
    summary := "Determines whether a path exists"
    usage := "Test-Path <path>"
    category := "Location" }
  handler := .reading fun _ _ args =>
    match present (firstPositional [] args) with
    | none => .error (.missing "Test-Path" "Path" "Test-Path requires a path parameter.")
    | some path => .ok (Reply.text (if pathExists path then "True" else "False"))

/-- The commands for locations and contents. -/
def locationCommands : List Command :=
  [getLocation, setLocation, getChildItem, getContent, testPath]

end CmdletShell.Cmdlet
