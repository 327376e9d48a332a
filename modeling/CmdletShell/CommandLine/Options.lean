import CmdletShell.Text.Class
import CmdletShell.Text.Quoted

/-!
# The options of the program

An option is written with two dashes and its name, which may be cut as long as only one option
begins so, or with one dash and a letter. Letters may be joined; a value stands after an equals
sign, in the next argument, or right after a letter.

* `Options.read`: the options of a list of arguments, or why there are none.
* `usage`, `helpText`: what is told about them.
-/

namespace CmdletShell.CommandLine

/-- An option. -/
inductive Flag where
  /-- Shows the help. -/
  | help
  /-- Shows the version. -/
  | version
  /-- Runs one line. -/
  | command
  /-- Shows the result as a document. -/
  | json
  /-- Loads a settings file. -/
  | config
  /-- Loads the settings file of the program again. -/
  | configReload
  /-- Logs everything. -/
  | debug
  deriving DecidableEq, Repr, Inhabited

namespace Flag

/-- All ways to write an option. -/
def spellings : List (Text × Flag) :=
  [("-h", .help), ("--help", .help), ("--version", .version), ("-v", .version),
    ("--command", .command), ("-c", .command), ("--json", .json), ("--config", .config),
    ("--config-reload", .configReload), ("--debug", .debug)]

/-- The option that is written so. -/
def ofSpelling? (text : Text) : Option Flag :=
  (spellings.find? (·.1 == text)).map (·.2)

/-- Whether an option has a value. -/
def hasValue : Flag → Bool
  | .command | .config => true
  | _ => false

/-- The name of an option in messages. -/
def title (flag : Flag) : Text :=
  Text.joinWith ['/'] ((spellings.filter (·.2 == flag)).map (·.1))

end Flag

/-- What is chosen on the command line. -/
structure Options where
  /-- Whether the version is shown. -/
  version : Bool := false
  /-- The line to run. -/
  command : Option Text := none
  /-- Whether its result is shown as a document. -/
  json : Bool := false
  /-- The settings file to load. -/
  config : Option Text := none
  /-- Whether the settings file of the program is loaded again. -/
  configReload : Bool := false
  /-- Whether everything is logged. -/
  debug : Bool := false
  deriving DecidableEq, Repr, Inhabited

/-- Why there are no options. -/
inductive Refusal where
  /-- The help was asked for. -/
  | help
  /-- The arguments break the rules. -/
  | usage (message : Text)
  deriving DecidableEq, Repr, Inhabited

/-- What follows the name of an option in the same argument. -/
inductive Attached where
  /-- Nothing. -/
  | nothing
  /-- A value after an equals sign. -/
  | equals (value : Text)
  /-- A value, or further letters. -/
  | joined (value : Text)
  deriving DecidableEq, Repr, Inhabited

/-- What an argument is. -/
inductive Argument where
  /-- An option. -/
  | option (flag : Flag) (spelling : Text) (attached : Attached)
  /-- It looks like an option, but there is none of its name. -/
  | unknown (text : Text)
  /-- Two dashes, after which there are no options. -/
  | dashes
  /-- Any other argument. -/
  | plain (text : Text)
  deriving DecidableEq, Repr, Inhabited

/-- What stands before and after the first equals sign. -/
def splitEquals (text : Text) : Text × Option Text :=
  match text.dropWhile (· != '=') with
  | [] => (text, none)
  | _ :: value => (text.takeWhile (· != '='), some value)

/-- A value after an equals sign, if there is one. -/
def Attached.ofEquals : Option Text → Attached
  | some value => .equals value
  | none => .nothing

/-- Whether a text is a negative number: a dash and digits, with a point among them or before
them. A line feed may stand at the end. -/
def isNegativeNumber (text : Text) : Bool :=
  let text := if text.getLast? = some '\n' then text.dropLast else text
  match text with
  | '-' :: rest =>
    let fraction := rest.dropWhile Text.isDigit
    match fraction with
    | [] => !rest.isEmpty
    | '.' :: digits => !digits.isEmpty && digits.all Text.isDigit
    | _ => false
  | _ => false

/-- The options that a text may be short for, with what is attached. -/
def candidates (text : Text) : List (Flag × Text × Attached) :=
  match text with
  | '-' :: '-' :: _ =>
    let (name, value) := splitEquals text
    (Flag.spellings.filter fun (spelling, _) => name.isPrefixOf spelling).map
      fun (spelling, flag) => (flag, spelling, .ofEquals value)
  | _ =>
    Flag.spellings.filterMap fun (spelling, flag) =>
      if spelling = text.take 2 then some (flag, spelling, .joined (text.drop 2))
      else if text.isPrefixOf spelling then some (flag, spelling, .nothing)
      else none

/-- What an argument that begins with a dash and more is, if it is no spelling of an option. -/
def classifyOther (text : Text) : Except Refusal Argument :=
  match candidates text with
  | [(flag, spelling, attached)] => .ok (.option flag spelling attached)
  | [] =>
    if isNegativeNumber text || text.contains ' ' then .ok (.plain text) else .ok (.unknown text)
  | several =>
    .error (.usage ("ambiguous option: " ++ text ++ " could match " ++
      Text.joinWith [',', ' '] (several.map (·.2.1))))

/-- What an argument before two dashes is. -/
def classify (text : Text) : Except Refusal Argument :=
  match text with
  | '-' :: _ :: _ =>
    match Flag.ofSpelling? text with
    | some flag => .ok (.option flag text .nothing)
    | none =>
      match splitEquals text with
      | (spelling, some value) =>
        match Flag.ofSpelling? spelling with
        | some flag => .ok (.option flag spelling (.equals value))
        | none => classifyOther text
      | _ => classifyOther text
  | _ => .ok (.plain text)

/-- What each argument is. -/
def classifyAll : List Text → Except Refusal (List Argument)
  | [] => .ok []
  | text :: rest =>
    if text = ['-', '-'] then .ok (.dashes :: rest.map .plain)
    else do
      let argument ← classify text
      let arguments ← classifyAll rest
      return argument :: arguments

/-- The refusal of an option for a reason. -/
def blame (flag : Flag) (reason : Text) : Refusal :=
  .usage ("argument " ++ flag.title ++ ": " ++ reason)

/-- The refusal of a value for an option that has none. -/
def ignoredValue (flag : Flag) (value : Text) : Refusal :=
  blame flag ("ignored explicit argument " ++ Text.quoted value)

/-- An option with its value, or an argument that nobody asked for. -/
inductive Choice where
  /-- An option, with a value if it has one. -/
  | chosen (flag : Flag) (value : Option Text)
  /-- An argument that nobody asked for. -/
  | extra (text : Text)
  deriving DecidableEq, Repr, Inhabited

/-- What the letters of one argument choose: `flag` is the option of the first of them, and
`letters` are those after it. The last option may lack its value, which is told beside. -/
def readLetters (flag : Flag) : Text → Except Refusal (List Choice × Option Flag)
  | [] => if flag.hasValue then .ok ([], some flag) else .ok ([.chosen flag none], none)
  | c :: rest =>
    if flag.hasValue then .ok ([.chosen flag (some (c :: rest))], none)
    else if c = '-' then .error (ignoredValue flag (c :: rest))
    else match Flag.ofSpelling? ['-', c] with
      | none => .ok ([.chosen flag none, .extra ('-' :: c :: rest)], none)
      | some next =>
        match rest with
        | '=' :: value =>
          if next.hasValue then .ok ([.chosen flag none, .chosen next (some value)], none)
          else .error (ignoredValue next value)
        | _ => (readLetters next rest).map fun (choices, open') =>
          (.chosen flag none :: choices, open')

/-- What an option in one argument chooses, and the option that still lacks its value. -/
def readOption (flag : Flag) (spelling : Text) (attached : Attached) :
    Except Refusal (List Choice × Option Flag) :=
  match attached with
  | .nothing => readLetters flag []
  | .equals value =>
    if flag.hasValue then .ok ([.chosen flag (some value)], none)
    else .error (ignoredValue flag value)
  | .joined value =>
    if ['-', '-'].isPrefixOf spelling then .error (ignoredValue flag value)
    else readLetters flag value

/-- The options after a choice. -/
def Options.choose (options : Options) (flag : Flag) (value : Option Text) :
    Except Refusal Options :=
  match flag with
  | .help => .error .help
  | .version => .ok { options with version := true }
  | .command => .ok { options with command := value }
  | .json => .ok { options with json := true }
  | .config => .ok { options with config := value }
  | .configReload => .ok { options with configReload := true }
  | .debug => .ok { options with debug := true }

/-- What the arguments choose, in order, up to the first one that breaks the rules. -/
def readChoices : List Argument → List (Except Refusal Choice)
  | [] => []
  | .plain text :: rest => .ok (.extra text) :: readChoices rest
  | .unknown text :: rest => .ok (.extra text) :: readChoices rest
  | .dashes :: rest => .ok (.extra ['-', '-']) :: readChoices rest
  | .option flag spelling attached :: rest =>
    match readOption flag spelling attached with
    | .error refusal => [.error refusal]
    | .ok (choices, none) => choices.map .ok ++ readChoices rest
    | .ok (choices, some waiting) =>
      match rest with
      | .plain value :: more =>
        (choices ++ [Choice.chosen waiting (some value)]).map .ok ++ readChoices more
      | _ => [.error (blame waiting "expected one argument")]

/-- The options and the arguments that nobody asked for after one more choice. -/
def applyChoice (found : Options × List Text) (choice : Except Refusal Choice) :
    Except Refusal (Options × List Text) := do
  match ← choice with
  | .chosen flag value => return (← found.1.choose flag value, found.2)
  | .extra text => return (found.1, found.2 ++ [text])

/-- The options of a list of arguments. -/
def Options.read (arguments : List Text) : Except Refusal Options := do
  let choices := readChoices (← classifyAll arguments)
  let (options, extras) ← choices.foldlM applyChoice ({}, [])
  if extras.isEmpty then return options
  else throw (.usage ("unrecognized arguments: " ++ Text.joinWith [' '] extras))

/-- How the program is called. -/
def usage : Text :=
  "usage: psim [-h] [--version] [--command TEXT] [--json] [--config PATH]\n" ++
    "            [--config-reload] [--debug]\n"

/-- The help. -/
def helpText : Text :=
  usage ++ "\npsim: a simulated PowerShell session in your terminal\n\n" ++
    "options:\n" ++
    "  -h, --help            show this help message and exit\n" ++
    "  --version, -v         Show version information\n" ++
    "  --command TEXT, -c TEXT\n" ++
    "                        Run a single command line and exit\n" ++
    "  --json                With --command, print the full result as JSON\n" ++
    "  --config PATH         Load configuration from PATH\n" ++
    "  --config-reload       Reload configuration and exit\n" ++
    "  --debug               Log debug output to the console\n" ++
    "\nExamples:\n" ++
    "  psim                                  # Start interactive session\n" ++
    "  psim -c \"Get-Location\"                # Run one command and exit\n" ++
    "  psim -c \"Get-Process | Sort-Object\"   # Pipelines work too\n" ++
    "  psim -c \"Get-Date\" --json             # Print the result as JSON\n" ++
    "  psim --config-reload                  # Reload configuration\n" ++
    "        \n"

/-- What is told about arguments that break the rules. -/
def usageError (message : Text) : Text :=
  usage ++ "psim: error: " ++ message ++ "\n"

end CmdletShell.CommandLine
