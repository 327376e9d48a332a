import CmdletShell.Argument.Operand
import CmdletShell.Command.Basic
import CmdletShell.Layout.Properties
import CmdletShell.Layout.Table

/-!
# Commands for the system

Output, processes, services, help, date, chance and the computer.
-/

namespace CmdletShell.Cmdlet

open Argument

/-- The control sequence that clears a terminal. -/
def clearScreen : Text := "\x1b[2J\x1b[H"

/-- The processes: number, name, load and memory. -/
def processes : List (List Text) :=
  [["1234", "devops-studio", "2.5", "150MB"], ["5678", "powershell", "1.2", "85MB"],
    ["9012", "chrome", "15.8", "350MB"], ["3456", "code", "8.3", "250MB"],
    ["7890", "explorer", "0.5", "120MB"]]

/-- The services: status, name and title. -/
def services : List (List Text) :=
  [["Running", "Themes", "Themes Service"], ["Running", "Spooler", "Print Spooler"],
    ["Stopped", "Fax", "Fax Service"], ["Running", "EventLog", "Windows Event Log"]]

/-- The cmdlets that `Get-Command` lists. -/
def knownCmdlets : List Text :=
  ["Get-ChildItem", "Set-Location", "Get-Content", "Write-Output", "Get-Process", "Get-Service",
    "Get-Help", "Get-Variable", "Set-Variable", "Get-Module", "Import-Module", "Test-Path",
    "New-Item", "Copy-Item", "Move-Item", "Remove-Item", "Get-Date", "Clear-Host", "Get-Host",
    "Invoke-WebRequest"]

/-- The help that no topic asks for. -/
def generalHelp : Text :=
  "TOPIC
    PowerShell Help System

SHORT DESCRIPTION
    Gets help for PowerShell cmdlets and concepts.

LONG DESCRIPTION
    The Get-Help cmdlet displays help for PowerShell cmdlets, functions, scripts,
    and concepts.

EXAMPLES
    Get-Help Get-Process
    Get-Help about_Variables
    Get-Help *process*

RELATED LINKS
    Online version: https://docs.microsoft.com/powershell/"

/-- The whole number given to a flag. -/
def intFlag (args : List Text) (flag : Text) (default : Int) : Except Failure Int :=
  match flagValue flag args with
  | none => .ok default
  | some raw =>
    match Text.readInteger? raw with
    | some n => .ok n
    | none => .error (.notInteger raw)

/-- Output of the arguments. -/
def writeOutput : Command where
  description := {
    name := "Write-Output"
    summary := "Writes the arguments to the output"
    usage := "Write-Output <text>"
    category := "Utility" }
  handler := .reading fun _ _ args => .ok (Reply.text (Text.joinWith [' '] args))

/-- The rows whose second cell holds the text asked for, in any letter case. -/
def rowsNamed (asked : Option Text) (rows : List (List Text)) : List (List Text) :=
  match present asked with
  | none => rows
  | some part => rows.filter fun row => Text.includes (Text.lower part) (Text.lower (row.getD 1 []))

/-- A listing of processes. -/
def getProcess : Command where
  description := {
    name := "Get-Process"
    summary := "Gets the processes running on the computer"
    usage := "Get-Process [name]"
    category := "System" }
  handler := .reading fun _ _ args =>
    .ok (Reply.table (Layout.table
      [⟨"Id", 8⟩, ⟨"ProcessName", 20⟩, ⟨"CPU", 8⟩, ⟨"WorkingSet", 0⟩]
      (rowsNamed (firstPositional [] args) processes)))

/-- A listing of services. -/
def getService : Command where
  description := {
    name := "Get-Service"
    summary := "Gets the services on the computer"
    usage := "Get-Service [name]"
    category := "System" }
  handler := .reading fun _ _ args =>
    .ok (Reply.table (Layout.table [⟨"Status", 10⟩, ⟨"Name", 15⟩, ⟨"DisplayName", 0⟩]
      (rowsNamed (firstPositional [] args) services)))

/-- What a cmdlet's name has to hold: the filter without the asterisks at its ends. -/
def commandNeedle (args : List Text) : Text :=
  Text.lower (Text.trim (· == '*') ((flagValue "-Name" args).getD []))

/-- A listing of cmdlets. -/
def getCommand : Command where
  description := {
    name := "Get-Command"
    summary := "Gets the commands available in the session"
    usage := "Get-Command [-Name <filter>]"
    category := "Utility"
    flags := ["-Name"] }
  handler := .reading fun _ _ args =>
    let found := knownCmdlets.filter fun name => Text.includes (commandNeedle args) (Text.lower name)
    .ok (Reply.table (Layout.table
      [⟨"CommandType", 15⟩, ⟨"Name", 20⟩, ⟨"Version", 10⟩, ⟨"Source", 0⟩]
      (found.map fun name => ["Cmdlet", name, "7.0.0.0", "Microsoft.PowerShell.Management"])))

/-- What is told about the command behind a topic, which an alias may name. -/
def topicDescription (context : Context) (state : State) (topic : Text) :
    Except Failure (Option Description) :=
  match state.resolveAlias topic with
  | .str name => .ok (context.describe name)
  | value => .error (.fault (.missingOperation value.kind "lower"))

/-- The summary of a topic. -/
def synopsis (topic : Text) (known : Option Description) : Text :=
  match known with
  | some command => if command.summary.isEmpty then "Help for " ++ topic else command.summary
  | none => "Help for " ++ topic

/-- The section of a help on how its command is called; only a command has one. -/
def usageSection : Option Description → Fields Text
  | some command => [("SYNTAX", command.usage)]
  | none => []

/-- The last section of the help for a topic. -/
def helpNotice (topic : Text) : Text :=
  "This is a demonstration help entry for " ++ topic ++ ".\n" ++
    "    In a real PowerShell environment, this would show detailed\n" ++
    "    help information including syntax, parameters, and examples."

/-- The sections of the help for a topic, under their titles. -/
def helpSections (topic : Text) (known : Option Description) : Fields Text :=
  ("NAME", topic) :: ("SYNOPSIS", synopsis topic known) ::
    (usageSection known ++ ([("DESCRIPTION", helpNotice topic)] : Fields Text))

/-- The help for a topic. -/
def topicHelp (topic : Text) (known : Option Description) : Text :=
  Text.joinWith "\n\n"
    ((helpSections topic known).map fun (title, body) => title ++ "\n    " ++ body)

/-- Help. -/
def getHelp : Command where
  description := {
    name := "Get-Help"
    summary := "Displays information about commands and concepts"
    usage := "Get-Help [topic]"
    category := "Utility" }
  handler := .reading fun context state args =>
    match present (firstPositional [] args) with
    | none => .ok (Reply.text generalHelp)
    | some topic => do
      let known ← topicDescription context state topic
      return Reply.text (topicHelp topic known)

/-- The date and the time. -/
def getDate : Command where
  description := {
    name := "Get-Date"
    summary := "Gets the current date and time"
    category := "Utility" }
  handler := .reading fun context _ _ => .ok (Reply.text context.clock.longDate)

/-- A random number between the bounds. -/
def randomBetween (random : Int → Int → Int) (args : List Text) : Except Failure Int := do
  let least ← intFlag args "-Minimum" 0
  let greatest ← intFlag args "-Maximum" 100
  if greatest < least then throw (.boundsReversed least greatest)
  return random least greatest

/-- A random number. -/
def getRandom : Command where
  description := {
    name := "Get-Random"
    summary := "Gets a random number"
    usage := "Get-Random [-Minimum <int>] [-Maximum <int>]"
    category := "Utility"
    flags := ["-Minimum", "-Maximum"] }
  handler := .reading fun context _ args => do
    return Reply.text (Text.writeInteger (← randomBetween context.random args))

/-- A clear screen. -/
def clearHost : Command where
  description := {
    name := "Clear-Host"
    summary := "Clears the display in the host program"
    category := "Utility" }
  handler := .reading fun _ _ _ => .ok (Reply.text clearScreen)

/-- What is told about the computer. -/
def getComputerInfo : Command where
  description := {
    name := "Get-ComputerInfo"
    summary := "Gets system and operating system properties"
    category := "System" }
  handler := .reading fun _ _ _ =>
    .ok (Reply.object (Layout.properties
      [("WindowsProductName", "Microsoft Windows 11 Pro"), ("WindowsVersion", "2009"),
        ("TotalPhysicalMemory", "17179869184"), ("ProcessorDescription", "Intel(R) Core(TM) i7"),
        ("BiosVersion", "American Megatrends Inc."),
        ("TimeZone", "(UTC-05:00) Eastern Time")]))

/-- The class that is asked for. -/
def className (args : List Text) : Text :=
  (flagOrPositional "-Class" ["-Class"] args).getD "Win32_OperatingSystem"

/-- What is told about a class of objects of the system. -/
def getWmiObject : Command where
  description := {
    name := "Get-WmiObject"
    summary := "Gets instances of WMI classes"
    usage := "Get-WmiObject [-Class <name>]"
    category := "System"
    flags := ["-Class"] }
  handler := .reading fun context _ args =>
    .ok (Reply.table (Layout.properties
      [("__CLASS", className args), ("Caption", "Microsoft Windows 11 Pro"),
        ("Version", "10.0.22000"), ("BuildNumber", "22000"),
        ("RegisteredUser", "Nishen Harichunder"), ("Organization", ""),
        ("InstallDate", context.clock.shortDate)]))

/-- The user of a home: its last piece. -/
def userOf (home : Text) : Text :=
  let name := ((Text.splitAt '\\' (Text.dropRight (· == '\\') home)).getLast?).getD []
  if name.isEmpty then "User" else name

/-- The current user. -/
def whoami : Command where
  description := {
    name := "whoami"
    summary := "Shows the current user"
    category := "System" }
  handler := .reading fun _ state _ =>
    match state.home with
    | .str home => .ok (Reply.text ("DEVOPS-STUDIO\\" ++ userOf home))
    | value => .error (.fault (.missingOperation value.kind "rstrip"))

/-- The commands for the system. -/
def systemCommands : List Command :=
  [writeOutput, getProcess, getService, getCommand, getHelp, getDate, getRandom, clearHost,
    getComputerInfo, getWmiObject, whoami]

end CmdletShell.Cmdlet
