import CmdletShell.Display.Highlight
import CmdletShell.Interpreter.Basic
import CmdletShell.Settings.File

/-!
# The log

Entries of a session are kept in a file if they matter enough. Whoever looks for errors sees them on
the screen as well.

* `Threshold.read?`: the least level by its name.
* `Logging.configure`: what is logged, and where; the file is made at once.
* `Logging.write`: adds entries to the file.
-/

namespace CmdletShell

/-- What an entry needs to be logged: a least level, or nothing of its own. -/
inductive Threshold where
  /-- What is usual. -/
  | usual
  /-- A level, or a higher one. -/
  | least (level : Level)
  deriving DecidableEq, Repr, Inhabited

namespace Threshold

/-- The names of the thresholds; two of them have a second one. -/
def names : Fields Threshold :=
  [("CRITICAL", .least .critical), ("FATAL", .least .critical), ("ERROR", .least .error),
    ("WARN", .least .warning), ("WARNING", .least .warning), ("INFO", .least .info),
    ("DEBUG", .least .debug), ("NOTSET", .usual)]

/-- The threshold of a name. -/
def read? (name : Text) : Option Threshold :=
  names.get? name

/-- The name of a threshold. -/
def name : Threshold → Text
  | .usual => "NOTSET"
  | .least level => level.name

/-- The least level that passes; warnings pass as usual. -/
def level : Threshold → Level
  | .usual => .warning
  | .least level => level

/-- Whether an entry passes. -/
def admits (threshold : Threshold) (entry : Entry) : Bool :=
  threshold.level.rank ≤ entry.level.rank

end Threshold

/-- What is logged, and where. -/
structure Logging where
  /-- What an entry needs to be logged. -/
  threshold : Threshold
  /-- Whether entries go into the file. -/
  toFile : Bool
  /-- Whether entries go to the screen. -/
  toScreen : Bool
  deriving DecidableEq, Repr, Inhabited

namespace Logging

/-- The threshold of a session. Whoever looks for errors sees everything. -/
def thresholdFor (debug : Bool) (settings : Settings) (environment : Environment) :
    Except Fault Threshold :=
  if debug then .ok (.least .debug)
  else match Threshold.read? (settings.levelName environment) with
    | some threshold => .ok threshold
    | none => .error .wrongValue

/-- Makes the file of the log, which keeps what it holds, if it can be made. -/
def openFile (site : Site) (storage : Storage) : Bool × Storage :=
  match storage.makeDirectory site.directory with
  | .error _ => (false, storage)
  | .ok storage =>
    match storage.write? site.log ((storage.read? site.log).getD []) with
    | some storage => (true, storage)
    | none => (false, storage)

/-- What is logged, and where. A screen needs the highlighter of the console. -/
def configure (debug : Bool) (settings : Settings) (environment : Environment) (site : Site)
    (storage : Storage) : Except Fault Logging × Storage :=
  match thresholdFor debug settings environment with
  | .error fault => (.error fault, storage)
  | .ok threshold =>
    let (toFile, storage) := openFile site storage
    if debug then
      match settings.consoleHighlighter environment with
      | .error fault => (.error fault, storage)
      | .ok _ => (.ok ⟨threshold, toFile, true⟩, storage)
    else (.ok ⟨threshold, toFile, false⟩, storage)

/-- A number in at least four digits. -/
def fourDigits (n : Nat) : Text :=
  let digits := Text.writeNatural n
  List.replicate (4 - digits.length) '0' ++ digits

/-- The time at the start of a line of the log. -/
def stamp (moment : Moment) : Text :=
  fourDigits moment.year ++ "-" ++ Moment.twoDigits moment.month ++ "-" ++
    Moment.twoDigits moment.day ++ " " ++ Moment.twoDigits moment.hour ++ ":" ++
    Moment.twoDigits moment.minute ++ ":" ++ Moment.twoDigits moment.second ++ ",000"

/-- An entry as it is logged, with a line end. -/
def entryText (moment : Moment) (entry : Entry) : Text :=
  stamp moment ++ " " ++ entry.level.name ++ " " ++ entry.source ++ ": " ++ entry.message ++ "\n"

/-- Adds the entries that pass to the file. -/
def write (logging : Logging) (site : Site) (moment : Moment) (journal : Journal)
    (storage : Storage) : Storage :=
  if logging.toFile then
    let text := (journal.filter logging.threshold.admits).flatMap (entryText moment)
    let old := (storage.read? site.log).getD []
    (storage.write? site.log (old ++ Text.Utf8.encode text)).getD storage
  else storage

/-- What goes to the standard error output: warnings and worse, if there is no other place. -/
def lastResort (logging : Logging) (journal : Journal) : Text :=
  if logging.toFile || logging.toScreen then []
  else
    let entries := (journal.filter logging.threshold.admits).filter
      (Threshold.least .warning).admits
    entries.flatMap fun entry => entry.message ++ "\n"

end Logging

end CmdletShell
