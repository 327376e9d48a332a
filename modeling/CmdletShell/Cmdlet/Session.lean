import CmdletShell.Argument.NameValue
import CmdletShell.Argument.Operand
import CmdletShell.Command.Basic
import CmdletShell.Glob
import CmdletShell.Layout.Properties
import CmdletShell.Layout.Table

/-!
# Commands for the session itself

`Get-Variable`, `Set-Variable`, `Get-Module`, `Import-Module`, `Get-ExecutionPolicy`,
`Get-PSVersionTable` and `Get-Host`.
-/

namespace CmdletShell.Cmdlet

open Argument

/-- How a value is shown in a listing: nothing for null, a word for lists and objects. -/
def displayValue : Value → Text
  | .null => []
  | .arr _ => "[Object]"
  | .obj _ => "[Object]"
  | value => value.show

/-- The most characters of a value that a listing shows. -/
def valueWidth : Nat := 30

/-- Whether a variable's name meets a pattern; without a pattern every name does. -/
def meets (pattern : Option Text) (name : Text) : Bool :=
  match present pattern with
  | some pattern => Glob.covers (Text.lower pattern) (Text.lower name)
  | none => true

/-- The listing of the variables that meet a pattern. -/
def variableTable (pattern : Option Text) (bindings : Fields Value) : Text :=
  Layout.table [⟨"Name", 15⟩, ⟨"Value", 32⟩, ⟨"Options", 0⟩]
    ((bindings.filter fun (name, _) => meets pattern name).map fun (name, value) =>
      [name, (displayValue value).take valueWidth, "None"])

/-- A listing of variables. -/
def getVariable : Command where
  description := {
    name := "Get-Variable"
    summary := "Gets the variables in the current session"
    usage := "Get-Variable [name-pattern]"
    category := "Session" }
  handler := .reading fun _ state args =>
    .ok (Reply.table (variableTable (flagOrPositional "-Name" ["-Name"] args) state.bindings))

/-- The name and the value that are to be assigned. -/
def assignment (args : List Text) : Except Failure (Text × Text) := do
  let detail : Text := "Set-Variable requires at least a name and value."
  if args.length < 2 then
    throw (.missing "Set-Variable" (if args.isEmpty then "Name" else "Value") detail)
  let (name, value) ← readNameValue args
  match present name, value with
  | none, _ => throw (.missing "Set-Variable" "Name" detail)
  | some _, none => throw (.missing "Set-Variable" "Value" detail)
  | some name, some value => return (name.dropWhile (· == '$'), value)

/-- An assignment of a variable. -/
def setVariable : Command where
  description := {
    name := "Set-Variable"
    summary := "Sets the value of a variable"
    usage := "Set-Variable <name> <value>"
    category := "Session"
    flags := ["-Name", "-Value"] }
  handler := .changing fun _ state args => do
    let (name, value) ← assignment args
    return (Reply.text [], state.assign name (.str value))

/-- A listing of the imported modules. -/
def getModule : Command where
  description := {
    name := "Get-Module"
    summary := "Lists the modules imported in the current session"
    category := "Session" }
  handler := .reading fun _ state _ =>
    .ok (Reply.table (Layout.table [⟨"ModuleType", 10⟩, ⟨"Version", 10⟩, ⟨"Name", 0⟩]
      ((Text.sort state.modules).map fun name => ["Manifest", "7.4.0.0", name])))

/-- An import of a module. -/
def importModule : Command where
  description := {
    name := "Import-Module"
    summary := "Adds a module to the current session"
    usage := "Import-Module <name>"
    category := "Session"
    flags := ["-Name"] }
  handler := .changing fun _ state args =>
    match flagOrPositional "-Name" ["-Name"] args with
    | none => .error (.missing "Import-Module" "Name" "Import-Module requires a module name.")
    | some name =>
      .ok (Reply.text ("Module '" ++ name ++ "' imported successfully."), state.load name)

/-- The execution policy, which is a variable. -/
def getExecutionPolicy : Command where
  description := {
    name := "Get-ExecutionPolicy"
    summary := "Gets the execution policy for the current session"
    category := "Session" }
  handler := .reading fun _ state _ =>
    .ok (Reply.text ((state.valueOf? "ExecutionPolicy").getD (.str [])).show)

/-- The version table as text: a line for each field, or the value that stands in its place. -/
def versionText (table : Value) : Text :=
  match table.orElse (.obj []) with
  | .obj fields =>
    Text.joinWith ['\n'] (fields.map fun (key, value) => Text.padRight 20 key ++ ' ' :: value.show)
  | value => displayValue value

/-- The version table, which is a variable. -/
def getVersionTable : Command where
  description := {
    name := "Get-PSVersionTable"
    summary := "Shows the PowerShell version table"
    category := "Session" }
  handler := .reading fun _ state _ =>
    .ok (Reply.text (versionText ((state.valueOf? "PSVersionTable").getD .null)))

/-- The version of the host: the one of the version table, if it has one. -/
def hostVersion (state : State) : Text :=
  match ((state.valueOf? "PSVersionTable").getD .null).get? "PSVersion" with
  | some version => version.show
  | none => "7.4.0"

/-- What is told about the host. -/
def getHost : Command where
  description := {
    name := "Get-Host"
    summary := "Gets information about the current host"
    category := "Session" }
  handler := .reading fun context state _ =>
    .ok (Reply.text (Layout.properties
      [("Name", "DevOps Studio PowerShell"), ("Version", hostVersion state),
        ("InstanceId", context.instanceId),
        ("UI", "System.Management.Automation.Internal.Host.InternalHostUserInterface"),
        ("CurrentCulture", "en-US"), ("CurrentUICulture", "en-US")]))

/-- The commands for the session itself. -/
def sessionCommands : List Command :=
  [getVariable, setVariable, getModule, importModule, getExecutionPolicy, getVersionTable, getHost]

end CmdletShell.Cmdlet
