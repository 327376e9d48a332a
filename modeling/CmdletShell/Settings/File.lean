import CmdletShell.Json.Reader
import CmdletShell.Json.Writer
import CmdletShell.Settings.Initial
import CmdletShell.Storage.Basic
import CmdletShell.Text.Utf8

/-!
# Settings files

* `Settings.load`: lays the document of a file over the settings, if the file holds one.
* `Settings.loadFile`: the same for a file that has to be there.
* `Settings.ensure`: makes the directory of the program, and the settings file if it is missing.
* `Settings.reload`: both, for the settings file of the program.
-/

namespace CmdletShell

/-- Where the program keeps its files. -/
structure Site where
  /-- The home directory of the user. -/
  home : Text
  /-- The directory of the program. -/
  directory : Path
  /-- The settings file. -/
  settings : Path
  /-- The log. -/
  log : Path
  /-- The lines of earlier sessions. -/
  history : Path
  deriving Inhabited

/-- The site below a directory. -/
def Site.below (home : Text) (directory : Path) : Site where
  home
  directory
  settings := directory.child "config.json"
  log := directory.child "psim.log"
  history := directory.child "history"

/-- Why settings are not loaded from a file. -/
inductive LoadFailure where
  /-- There is no such file. -/
  | notFound (path : Path)
  /-- The file holds no settings. -/
  | notUnderstood (path : Path)
  /-- Something inside went wrong. -/
  | fault (fault : Fault)
  deriving DecidableEq, Repr, Inhabited

/-- The words for the user. -/
def LoadFailure.message : LoadFailure → Text
  | .notFound path => "Configuration file not found: " ++ path.text
  | .notUnderstood path => "Could not parse configuration file: " ++ path.text
  | .fault inner => inner.text

namespace Settings

/-- The document that bytes hold, if it is an object. -/
def readDocument (bytes : List Nat) : Except Fault (Option Value) :=
  match Text.Utf8.decode? bytes with
  | none => .error .undecodable
  | some text =>
    match Json.read text with
    | .ok (.obj fields) => .ok (some (.obj fields))
    | .ok _ => .ok none
    | .error .malformed => .ok none
    | .error .tooLong => .error .wrongValue

/-- The document of a file, if it is there and holds one. -/
def findDocument (storage : Storage) (path : Path) : Except Fault (Option Value) :=
  match storage.read? path with
  | none => .ok none
  | some bytes => readDocument bytes

/-- The settings after the document of a file has been laid over them, if it holds one. -/
def load (storage : Storage) (path : Path) (settings : Settings) :
    Except Fault (Option Settings) :=
  (findDocument storage path).map fun found => found.map (overlay · settings)

/-- The settings after the document of a file has been laid over them; the file has to be there
and to hold one. -/
def loadFile (home : Text) (storage : Storage) (path : Path) (settings : Settings) :
    Except LoadFailure Settings :=
  match path.expand home with
  | .error fault => .error (.fault fault)
  | .ok path =>
    if (storage.read? path).isNone then .error (.notFound path)
    else match settings.load storage path with
      | .error fault => .error (.fault fault)
      | .ok none => .error (.notUnderstood path)
      | .ok (some settings) => .ok settings

/-- The bytes of the settings file. -/
def fileBytes (settings : Settings) : List Nat :=
  Text.Utf8.encode (Json.writeIndented false settings.document)

/-- Makes the directory of the program, and the settings file if nothing stands at its place. A
settings file that cannot be written is left out. -/
def ensure (site : Site) (settings : Settings) (storage : Storage) : Except Fault Storage := do
  let storage ← storage.makeDirectory site.directory
  if (storage.node? site.settings).isSome then return storage
  else return (storage.write? site.settings settings.fileBytes).getD storage

/-- Loads the settings file of the program, which is made if it is missing. Nothing is loaded if
the directory cannot be made. -/
def reload (site : Site) (settings : Settings) (storage : Storage) :
    Except Fault (Option Settings) × Storage :=
  match ensure site settings storage with
  | .error fault => (if fault.isFiling then .ok none else .error fault, storage)
  | .ok storage => (settings.load storage site.settings, storage)

end Settings

end CmdletShell
