import CmdletShell.Display.Theme
import CmdletShell.Interpreter.Result
import CmdletShell.Json.Display
import CmdletShell.Storage.Path
import CmdletShell.Text.Lines

/-!
# Views

What the session shows on each occasion: the greeting, the help, the history, the result of a
line, a failure, and what becomes of session commands.
-/

namespace CmdletShell.Display

/-- A view of a panel. -/
def panelView (panel : Except Fault Panel) : View :=
  [panel.map Printed.panel]

/-- A view of a text with markup. -/
def markupView (text : Text) : View :=
  [.ok (.label (.markup text))]

/-- A panel that fits its body. -/
def fitted (settings : Settings) (body : Body) (title : Label) (style : Text) :
    Except Fault Panel :=
  settings.panel body title (.str style) true []

/-- A panel around a text with markup. -/
def notice (settings : Settings) (text title style : Text) : Except Fault Panel :=
  fitted settings (.label (.markup text)) (.markup title) style

/-! ## Greeting and help -/

/-- The lines of the greeting after the first. -/
def welcomeLines (version location : Text) : List Text :=
  [[], "[dim]Version:[/dim] " ++ version, "[dim]Location:[/dim] " ++ location,
    "[dim]Type[/dim] [cyan]Get-Help[/cyan] [dim]or[/dim] [cyan]/help[/cyan] " ++
      "[dim]to get started.[/dim]"]

/-- The greeting, whose first line has to be a text. -/
def welcomePanel (settings : Settings) (version location : Text) : Except Fault Panel :=
  match settings .welcomeMessage with
  | .str message =>
    notice settings (Text.joinWith ['\n'] (message :: welcomeLines version location)) [] "info"
  | _ => .error .wrongKind

/-- The greeting and an empty line, unless the settings do without. -/
def welcome (settings : Settings) (version location : Text) : View :=
  if (settings .startupBanner).truthy then
    panelView (welcomePanel settings version location) ++ [.ok .blank]
  else []

/-- The parts of a value that has some: items of a list, characters of a text, names of fields. -/
def partsOf : Value → Except Fault (List Value)
  | .arr items => .ok items
  | .str text => .ok (text.map fun c => .str [c])
  | .obj fields => .ok (fields.map fun (name, _) => .str name)
  | _ => .error .wrongKind

/-- The texts of a value with two parts. -/
def pairOf (value : Value) : Except Fault (Text × Text) := do
  match ← partsOf value with
  | [first, second] => return (first.show, second.show)
  | _ => throw .wrongValue

/-- The texts of values with two parts each. -/
def pairsOf (value : Value) : Except Fault (List (Text × Text)) := do
  (← partsOf value).mapM pairOf

/-- A line of the help. -/
def helpLine (name rest : Text) : Text :=
  "  • [cyan]" ++ name ++ "[/cyan]" ++ rest

/-- What stands before an explanation. -/
def dash : Text := " – "

/-- A line of the help with an explanation. -/
def explainedLine (entry : Text × Text) : Text :=
  helpLine entry.1 (dash ++ entry.2)

/-- A line of the help for a command, which may lack an explanation. -/
def commandLine (entry : Text × Text) : Text :=
  helpLine entry.1 (if entry.2.isEmpty then [] else dash ++ entry.2)

/-- Commands with explanations by category. -/
abbrev Catalogue := Fields (List (Text × Text))

/-- The categories in code point order. -/
def sortedCatalogue (catalogue : Catalogue) : Catalogue :=
  catalogue.mergeSort fun a b => Text.le a.1 b.1

/-- The lines of a category. -/
def categoryLines (category : Text × List (Text × Text)) : List Text :=
  ("\n[bold]" ++ category.1 ++ " Cmdlets[/bold]") :: category.2.map commandLine

/-- The lines of the help. -/
def helpLines (settings : Settings) (catalogue : Catalogue) : Except Fault (List Text) := do
  let keys ← pairsOf (settings .helpKeys)
  let commands ← pairsOf (settings .helpCommands)
  let keyLines : List Text := "[bold]Keybindings[/bold]" :: keys.map explainedLine
  let sessionLines : List Text :=
    "\n[bold]Session Commands[/bold]" :: commands.map explainedLine
  return keyLines ++ sessionLines ++ (sortedCatalogue catalogue).flatMap categoryLines

/-- The help between empty lines. -/
def help (settings : Settings) (catalogue : Catalogue) : View :=
  match helpLines settings catalogue with
  | .error fault => [.error fault]
  | .ok lines =>
    [.ok .blank] ++ panelView (notice settings (Text.joinWith ['\n'] lines) "Help" "info") ++
      [.ok .blank]

/-! ## History and results -/

/-- The table of lines, numbered from one. -/
def historyTable (entries : List Text) : Table where
  showHeader := true
  columns :=
    [{ header := "Id", style := "dim", justify := "right",
       cells := (List.range entries.length).map fun i => .markup (Text.writeNatural (i + 1)) },
      { header := "CommandLine", style := "white", cells := entries.map Label.plain }]

/-- The lines of the session. -/
def history (settings : Settings) (entries : List Text) : View :=
  if entries.isEmpty then
    panelView (notice settings "[yellow]No commands in this session yet[/yellow]" "History"
      "warning")
  else panelView (fitted settings (.table (historyTable entries)) (.markup "History") "info")

/-- What stands between key and value of a property. -/
def colon : Text := [' ', ':', ' ']

/-- The texts before and after the first colon between spaces. -/
def splitProperty : Text → Option (Text × Text)
  | [] => none
  | c :: rest =>
    if colon.isPrefixOf (c :: rest) then some ([], rest.drop 2)
    else (splitProperty rest).map fun (key, value) => (c :: key, value)

/-- The property of a line. -/
def readProperty (line : Text) : Option (Text × Text) :=
  (splitProperty line).map fun (key, value) => (Text.strip key, Text.strip value)

/-- The properties of a text, one a line; none if a line that is not blank holds no property. -/
def readProperties (text : Text) : Option (List (Text × Text)) :=
  ((Text.lines text).filter (!Text.isBlankText ·)).mapM readProperty

/-- A table of properties. -/
def propertyTable (rows : List (Text × Text)) : Table where
  showHeader := false
  columns :=
    [{ header := "Property", style := "cyan", noWrap := true,
       cells := rows.map fun (key, _) => Label.plain key },
      { header := "Value", cells := rows.map fun (_, value) => Label.plain value }]

/-- The table of the properties in a text, if it holds some and nothing else. -/
def objectTable (text : Text) : Option Table :=
  match readProperties text with
  | some (row :: rows) => some (propertyTable (row :: rows))
  | _ => none

/-- The body for an output, which has to be a text. -/
def resultBody (shape : Shape) (output : Value) : Except Fault Body :=
  match output with
  | .str text =>
    let plain := Body.label (.plain text)
    if shape = .object then .ok (((objectTable text).map Body.table).getD plain) else .ok plain
  | value => .error (.missingOperation value.kind "translate")

/-- The time that a line took, unless the settings do without. -/
def timing (settings : Settings) (millis : Int) : Value :=
  if (settings .timing).truthy then .str (Text.writeInteger millis ++ " ms") else .null

/-- The panel of a result with an output. -/
def resultPanel (settings : Settings) (line : Text) (result : Result) : Except Fault Panel := do
  let style ← settings.styleForShape result.shape.name
  let body ← resultBody result.shape result.output
  settings.panel body (.plain (' ' :: line)) style true
    [("subtitle", timing settings result.millis), ("subtitle_align", .str "right")]

/-- The title of a panel about a failure. -/
def failureTitle (line : Text) : Label :=
  .plain (" PS: " ++ line)

/-- The tree that tells a failure. -/
def failureTree (line message : Text) : Tree :=
  .node (.markup "[bold red]Error[/bold red]")
    [.leaf (.styled (.labelled "Command: " "cyan" line)),
      .leaf (.styled (.labelled "Message: " "red" message))]

/-- A failure. -/
def failure (settings : Settings) (line message : Text) : View :=
  panelView (fitted settings (.tree (failureTree line message)) (failureTitle line) "error")

/-- What is said of a failure that says nothing. -/
def unknownFailure : Text := "Unknown error occurred"

/-- The words of a failed result. -/
def failureMessage (result : Result) : Text :=
  match result.error with
  | some message => if message.isEmpty then unknownFailure else message
  | none => unknownFailure

/-- A result: a failure, nothing if the output is empty, or the output. -/
def result (settings : Settings) (line : Text) (result : Result) : View :=
  if !result.success then failure settings line (failureMessage result)
  else if !result.output.truthy then []
  else panelView (resultPanel settings line result)

/-- What to do about a name that no command has. -/
def tips : List Tree :=
  [.leaf (.markup "• Run 'Get-Command' to list the available cmdlets"),
    .leaf (.markup "• Use '/help' to see the session commands")]

/-- The names that may have been meant. -/
def suggestionTrees (suggestions : List Text) : List Tree :=
  if suggestions.isEmpty then []
  else
    [.node (.markup "[cyan]Possible similar commands[/cyan]")
      (suggestions.map fun name => .leaf (.markup ("- " ++ name)))]

/-- The tree that tells that no command has a name. -/
def notFoundTree (line message : Text) (suggestions : List Text) : Tree :=
  .node (.markup "[bold red]Command Not Found[/bold red]")
    ([.leaf (.styled (.labelled "Input: " "cyan" line)),
      .leaf (.styled (.ofStyle message (.str "red"))),
      .node (.markup "[green]Tips[/green]") tips] ++ suggestionTrees suggestions)

/-- A line whose command is not found. -/
def notFound (settings : Settings) (line message : Text) (suggestions : List Text) : View :=
  panelView (fitted settings (.tree (notFoundTree line message suggestions)) (failureTitle line)
    "error")

/-! ## Session commands -/

/-- Whether settings were loaded from a file. -/
def reloaded (settings : Settings) (path : Path) (loaded : Bool) : View :=
  if loaded then
    panelView (notice settings
      ("[green]Configuration reloaded from " ++ path.text ++ "[/green]") "Config" "success")
  else
    panelView (notice settings
      ("[yellow]No configuration loaded from " ++ path.text ++ "[/yellow]") "Config" "warning")

/-- A number in a format; any other value cannot be written so. -/
def formatted (format : Number.FixedFormat) (value : Value) : Except Fault Text :=
  match value.number?, value with
  | some number, _ => .ok (number.fixed format)
  | none, .str _ => .error .wrongValue
  | none, _ => .error .wrongKind

/-- A row of the memory table: what is measured, under which name, and with how many places. -/
structure Measure where
  /-- What is measured. -/
  label : Text
  /-- The name of its reading. -/
  key : Text
  /-- Count of decimal places. -/
  places : Nat
  /-- Whether commas separate thousands. -/
  commas : Bool

/-- The rows of the memory table. -/
def measures : List Measure :=
  [⟨"RSS Memory (MB)", "rss_mb", 1, false⟩, ⟨"VMS Memory (MB)", "vms_mb", 1, false⟩,
    ⟨"Python Objects", "python_objects", 0, true⟩]

/-- The difference of two values that are numbers. -/
def difference (before after : Value) : Value :=
  match before.number?, after.number? with
  | some a, some b =>
    match b.sub a with
    | .int n => .int n
    | .float x => .float x
  | _, _ => .null

/-- The cells of a row after the first: before, after, and the change. -/
def Measure.cells (measure : Measure) (before after : Fields Value) :
    Except Fault (List Text) := do
  let old := (before.get? measure.key).getD (.int 0)
  let new := (after.get? measure.key).getD (.int 0)
  let old' ← formatted ⟨measure.places, false, measure.commas⟩ old
  let new' ← formatted ⟨measure.places, false, measure.commas⟩ new
  let change ← formatted ⟨measure.places, true, measure.commas⟩ (difference old new)
  return [old', new', change]

/-- The cells of a column. -/
def cellsAt (rows : List (List Text)) (index : Nat) : List Label :=
  rows.map fun row => .markup (row.getD index [])

/-- The memory table. -/
def memoryTable (before after : Fields Value) : Except Fault Table := do
  let rows ← measures.mapM fun measure =>
    (measure.cells before after).map fun cells => measure.label :: cells
  return {
    title := some "Memory Cleanup Results"
    showHeader := true
    boxed := true
    columns :=
      [{ header := "Metric", style := "cyan", cells := cellsAt rows 0 },
        { header := "Before", style := "yellow", cells := cellsAt rows 1 },
        { header := "After", style := "green", cells := cellsAt rows 2 },
        { header := "Change", style := "magenta", cells := cellsAt rows 3 }] }

/-- What cleaning up has changed. -/
def memory (before after : Fields Value) (collected : Text) : View :=
  [(memoryTable before after).map Printed.table] ++
    markupView ("[dim]Garbage collector freed " ++ collected ++ " objects[/dim]")

/-- The usual words for an interrupt. -/
def interruptMessage : Text := "^C - Input cancelled"

/-- An interrupt while a line is typed. -/
def interrupt (message : Text) : View :=
  markupView ("[yellow]" ++ message ++ "[/yellow]")

/-- The farewell. -/
def goodbye : View :=
  markupView "[yellow]Goodbye![/yellow]"

end CmdletShell.Display
