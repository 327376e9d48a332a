import CmdletShell.CommandLine.Run
import CmdletShell.Display.Plain
import Std.Time.Format

/-!
# The executable

The thin layer around the program: it gathers arguments, environment, files, clock and chance, plays
a session line by line, and writes what the report of the program says.
-/

namespace CmdletShell.Executable

/-- The time of the clock on the wall. -/
def readClock : IO Moment := do
  let now ← Std.Time.PlainDateTime.now
  return ⟨now.year.toInt.toNat, now.month.val.toNat, now.day.val.toNat, now.hour.val.toNat,
    now.minute.val.toNat, now.second.val.toNat⟩

/-- A number of hexadecimal digits by chance. -/
def randomDigits (count : Nat) : IO Text := do
  let n ← IO.rand 0 (Nat.pow 16 count - 1)
  let digits := Nat.toDigits 16 n
  return List.replicate (count - digits.length) '0' ++ digits

/-- A name by chance for a host, in five groups of digits. -/
def randomIdentity : IO Text := do
  let groups ← [8, 4, 4, 4, 12].mapM randomDigits
  return Text.joinWith ['-'] groups

/-- A whole number between two others, by a seed. -/
def between (seed : Nat) (low high : Int) : Int :=
  low + (seed : Int) % (high - low + 1)

/-- The clock and the chance of one line. -/
def renew (context : Context) : IO Context := do
  let seed ← IO.rand 0 (Nat.pow 2 31 - 1)
  return { context with clock := ← readClock, random := between seed }

/-- The variables that are set of those the settings yield to. -/
def readEnvironment : IO Environment := do
  let found ← Environment.names.mapM fun name => do
    return (← IO.getEnv name.asString).map fun value => (name, value.toList)
  return found.filterMap id

/-- Adds a file to a storage, if there is such a file. -/
def fetch (path : Path) (storage : Storage) : IO Storage := do
  try
    let bytes ← IO.FS.readBinFile path.text.asString
    return storage.provide path (bytes.toList.map UInt8.toNat)
  catch _ => return storage

/-- The settings file that the arguments name. -/
def namedFile (home : Text) (arguments : List Text) : List Path :=
  match CommandLine.Options.read arguments with
  | .ok options => (options.config.bind fun path => ((Path.read path).expand home).toOption).toList
  | .error _ => []

/-- The settings that the program starts with: its settings file is loaded before anything else. -/
def startSettings (site : Site) (storage : Storage) : IO Settings :=
  match Settings.initial.load storage site.settings with
  | .ok found => return found.getD Settings.initial
  | .error fault => throw (.userError fault.text.asString)

/-- What the program starts in. -/
def gather (arguments : List Text) : IO Surroundings := do
  let home := ((← IO.getEnv "HOME").getD "/").toList
  let site := Site.below home ((Path.read home).child ".psim")
  let files := site.settings :: site.log :: namedFile home arguments
  let storage ← files.foldlM (fun storage path => fetch path storage) {}
  let context ← renew { instanceId := ← randomIdentity, clock := default, random := between 0 }
  let settings ← startSettings site storage
  return { settings, storage, environment := ← readEnvironment, site, context }

/-- Writes the files of a storage that differ from those of an older one. -/
def save (old new : Storage) : IO Unit :=
  new.nodes.forM fun (name, node) => do
    match node with
    | .directory => IO.FS.createDirAll name.asString
    | .file bytes =>
      unless old.nodes.get? name = some node do
        IO.FS.writeBinFile name.asString ⟨(bytes.map UInt8.ofNat).toArray⟩

/-- Puts out what is on the screen and takes it off the list. -/
def flush (shell : Shell) : IO Shell := do
  for thing in shell.printed do
    for line in thing.lines do IO.println line.asString
  return { shell with printed := [] }

/-- Takes a step, and puts out what it shows. -/
def step {α : Type} (action : Shell.Step α) (shell : Shell) : IO (Except Fault α × Shell) := do
  let (result, shell) := StateT.run (ExceptT.run action) shell
  return (result, ← flush shell)

/-- Asks for a line. -/
def ask (shell : Shell) : IO Shell.Typed := do
  let (prompt, _) := StateT.run (ExceptT.run Shell.prompt) shell
  IO.print (Text.asString ((prompt.toOption.getD []).flatMap (·.2)))
  (← IO.getStdout).flush
  let line ← (← IO.getStdin).getLine
  return if line.isEmpty then .ended else .line line.toList

/-- Reads lines until one ends the session. -/
partial def converse (shell : Shell) : IO (Except Fault Unit × Shell) := do
  let typed ← ask shell
  let context ← renew shell.interpreter.context
  let shell := { shell with interpreter := { shell.interpreter with context } }
  match ← step (Shell.turn typed) shell with
  | (.ok true, shell) => converse shell
  | (.ok false, shell) => return (.ok (), shell)
  | (.error fault, shell) => return (.error fault, shell)

/-- Plays a session to its end. -/
def play (sitting : CommandLine.Sitting) : IO CommandLine.Report := do
  let opened ← step (do Shell.greet; Shell.opening) sitting.shell
  let (result, shell) ← match opened with
    | (.ok _, shell) => converse shell
    | (.error fault, shell) => pure (.error fault, shell)
  return CommandLine.Sitting.close { sitting with shell } result

/-- Puts out what a report says, and gives the exit code. -/
def deliver (old : Storage) (report : CommandLine.Report) : IO UInt32 := do
  save old report.storage
  IO.print report.out.asString
  IO.eprint report.err.asString
  match report.ending with
  | .ok code => return code.toUInt32
  | .error fault =>
    IO.eprintln fault.text.asString
    return 1

end CmdletShell.Executable

open CmdletShell CmdletShell.Executable in
/-- Runs the program. -/
def main (arguments : List String) : IO UInt32 := do
  let arguments := arguments.map String.toList
  let surroundings ← gather arguments
  let report ← match CommandLine.start arguments surroundings with
    | .error report => pure report
    | .ok sitting => play sitting
  deliver surroundings.storage report
