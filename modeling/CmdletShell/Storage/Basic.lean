import CmdletShell.Storage.Path

/-!
# Stored files

A storage is a tree of directories and files, listed by path.

* `Storage.node?`: what stands at a path, where double dots lead up.
* `Storage.makeDirectory`: a directory and all above it.
* `Storage.write?`: a file in a directory that is there.
* `Storage.provide`: a file with all directories above it.
-/

namespace CmdletShell

/-- A node of the tree. -/
inductive Node where
  /-- A directory. -/
  | directory
  /-- A file of bytes. -/
  | file (bytes : List Nat)
  deriving DecidableEq, Repr, Inhabited

/-- The nodes under the texts of their paths. The roots themselves are not listed. -/
structure Storage where
  /-- The nodes. -/
  nodes : Fields Node := []
  deriving Inhabited

namespace Storage

/-- The node at a path without double dots. -/
def direct? (storage : Storage) (path : Path) : Option Node :=
  if path.parts.isEmpty then some .directory else storage.nodes.get? path.text

/-- The path without double dots that is reached from `here` by way of `parts`. Every part but the
last has to be a directory; nothing stands above the root. -/
def walk? (storage : Storage) (here : Path) : List Text → Option Path
  | [] => some here
  | part :: rest =>
    if part = ['.', '.'] then
      if here.parts.isEmpty then none
      else storage.walk? { here with parts := here.parts.dropLast } rest
    else match storage.direct? (here.child part) with
      | some .directory => storage.walk? (here.child part) rest
      | some (.file _) => if rest.isEmpty then some (here.child part) else none
      | none => none

/-- What stands at a path. -/
def node? (storage : Storage) (path : Path) : Option Node :=
  (storage.walk? { path with parts := [] } path.parts).bind storage.direct?

/-- The bytes of a file. -/
def read? (storage : Storage) (path : Path) : Option (List Nat) :=
  match storage.node? path with
  | some (.file bytes) => some bytes
  | _ => none

/-- Makes the directories on the way from `here` by `parts`. A file on the way stands in it. -/
def makeWay (storage : Storage) (here : Path) : List Text → Except Fault Storage
  | [] => .ok storage
  | part :: rest =>
    if part = ['.', '.'] then
      storage.makeWay { here with parts := here.parts.dropLast } rest
    else match storage.direct? (here.child part) with
      | some .directory => storage.makeWay (here.child part) rest
      | some (.file _) => .error (if rest.isEmpty then .fileExists else .notDirectory)
      | none =>
        makeWay ⟨storage.nodes.put (here.child part).text .directory⟩ (here.child part) rest

/-- Makes a directory and all above it, as far as they are not there. -/
def makeDirectory (storage : Storage) (path : Path) : Except Fault Storage :=
  storage.makeWay { path with parts := [] } path.parts

/-- Writes a file in place of what it held, if its directory is there and it is none itself. -/
def write? (storage : Storage) (path : Path) (bytes : List Nat) : Option Storage := do
  let name ← path.parts.getLast?
  let above ← storage.walk? { path with parts := [] } path.parts.dropLast
  guard (storage.direct? above = some .directory)
  let target := above.child name
  guard (storage.direct? target ≠ some .directory)
  return ⟨storage.nodes.put target.text (.file bytes)⟩

/-- Writes a file and makes the directories above it, as far as that can be done. -/
def provide (path : Path) (bytes : List Nat) (storage : Storage) : Storage :=
  let above := { path with parts := path.parts.dropLast }
  let storage := (storage.makeDirectory above).toOption.getD storage
  (storage.write? path bytes).getD storage

/-- The texts of the paths of all files, in code point order. -/
def fileNames (storage : Storage) : List Text :=
  Text.sort (storage.nodes.filterMap fun (name, node) =>
    match node with
    | .file _ => some name
    | .directory => none)

end Storage

end CmdletShell
