import CmdletShell.Settings.Basic
import CmdletShell.Session.State

/-!
# The settings of a fresh installation
-/

namespace CmdletShell

namespace Setting

/-- Names with texts as a value. -/
def textTable (fields : Fields Text) : Value :=
  .obj (State.textFields fields)

/-- Pairs of texts as a value. -/
def textPairs (pairs : List (Text × Text)) : Value :=
  .arr (pairs.map fun (name, text) => .arr [.str name, .str text])

/-- A panel style that differs from the others in its border only. -/
def bordered (colour : Text) : Value :=
  .obj [("border_style", .str colour), ("padding", .arr [.int 0, .int 1]),
    ("title_align", .str "left"), ("expand", .bool false)]

/-- A rule of highlighting: what it is called, what it looks for, and how that is shown. -/
def ruleOf (name pattern style : Text) : Value :=
  textTable [("name", name), ("pattern", pattern), ("style", style)]

/-- The keys that the help lists. -/
def initialKeys : List (Text × Text) :=
  [("Alt+H", "Show this help"), ("Ctrl+L", "Clear the screen"), ("Ctrl+D", "Exit the session")]

/-- The session commands that the help lists. -/
def initialCommands : List (Text × Text) :=
  [("exit", "Exit the session"), ("history", "Show commands entered in this session"),
    ("/config_reload", "Reload configuration"),
    ("/cleanup_memory", "Collect garbage and show memory usage"), ("/help", "Show this help")]

/-- The styles of the prompt. -/
def initialPromptStyles : Fields Text :=
  [("prompt_prefix", "#8caaee bold"), ("path", "#b5cef8 bold"),
    ("prompt_symbol", "#f2d5cf bold"), ("status_ok", "#a6d189"), ("status_error", "#e78284")]

/-- The styles of the completion menu. -/
def initialCompletionStyles : Fields Text :=
  [("completion-menu.completion", "bg:#0a0a0a fg:#aaaaaa bold"),
    ("completion-menu.completion.current", "bg:#888888 fg:#0a0a0a"),
    ("completion-menu.meta.completion", "bg:#0a0a0a fg:#737994"),
    ("completion-menu.meta.completion.current", "bg:#888888")]

/-- The styles of panels. -/
def initialPanelStyles : Fields Value :=
  [("default", bordered "#888888"), ("info", bordered "#8caaee"), ("success", bordered "#a6d189"),
    ("error", bordered "#e78284"), ("warning", bordered "#e5c890")]

/-- The panel style for each shape of an output. -/
def initialShapeStyles : Fields Text :=
  [("text", "default"), ("table", "info"), ("object", "info")]

/-- What is highlighted: numbers, quoted texts, names of commands, truth values on a line of their
own, and addresses of four numbers. -/
def initialRules : List Value :=
  [ruleOf "number" "(?P<number>\\b\\d+(?:\\.\\d+)?\\b)" "highlight.number",
    ruleOf "string" "(?P<string>'[^']+')" "highlight.string",
    ruleOf "cmdlet" "(?P<cmdlet>\\b[A-Z][a-z]+-[A-Z][A-Za-z]+\\b)" "highlight.cmdlet",
    ruleOf "boolean" "(?P<boolean>^(?:True|False)$)" "highlight.boolean",
    ruleOf "ip" "(?P<ip>\\b\\d\x7b1,3\x7d(?:\\.\\d\x7b1,3\x7d)\x7b3\x7d\\b)" "highlight.ip"]

/-- The styles of highlighting. -/
def initialHighlightStyles : Fields Text :=
  [("highlight.number", "bold cyan"), ("highlight.string", "bold green"),
    ("highlight.cmdlet", "bold yellow"), ("highlight.boolean", "bold magenta"),
    ("highlight.ip", "bold magenta")]

/-- The value of a setting before any document. -/
def initial : Setting → Value
  | .homeLocation => .str State.defaultHome
  | .promptPrefix => .str "PS"
  | .extraAliases => .obj []
  | .welcomeMessage => .str "Welcome to psim, a simulated PowerShell session"
  | .startupBanner => .bool true
  | .timing => .bool true
  | .logLevel => .str "WARNING"
  | .promptLexer => .str "powershell"
  | .completionPopup => .bool true
  | .helpKeys => textPairs initialKeys
  | .helpCommands => textPairs initialCommands
  | .promptStyles => textTable initialPromptStyles
  | .completionStyles => textTable initialCompletionStyles
  | .panelStyles => .obj initialPanelStyles
  | .shapeStyles => textTable initialShapeStyles
  | .highlighting => .bool true
  | .highlightRules => .arr initialRules
  | .highlightStyles => textTable initialHighlightStyles

end Setting

/-- The settings before any document. -/
def Settings.initial : Settings := Setting.initial

end CmdletShell
