import CmdletShell.Failure

/-!
# Paths of files

A path is a root, which is empty for a relative path, and parts. Empty parts and single dots are
left out when a path is read; double dots stay.

* `Path.read`, `Path.text`: a path and its text.
* `Path.expand`: a path that begins with a tilde begins with the home directory instead.
-/

namespace CmdletShell

/-- A path of a file. -/
structure Path where
  /-- The slashes it begins with: none, one, or two. -/
  root : Text := []
  /-- The parts, none of which is empty or a single dot. -/
  parts : List Text
  deriving DecidableEq, Repr, Inhabited

namespace Path

/-- The root of a path: three slashes and more count as one. -/
def rootOf (text : Text) : Text :=
  match text.takeWhile (· == '/') with
  | [] => []
  | ['/', '/'] => ['/', '/']
  | _ => ['/']

/-- Whether a piece between slashes is a part of the path. -/
def isPart (piece : Text) : Bool :=
  piece != [] && piece != ['.']

/-- The path of a text. -/
def read (text : Text) : Path :=
  ⟨rootOf text, (Text.splitAt '/' text).filter isPart⟩

/-- The text of a path; one dot for the path that has none. -/
def text (path : Path) : Text :=
  match path.root ++ Text.joinWith ['/'] path.parts with
  | [] => ['.']
  | text => text

/-- The path with a further part. -/
def child (path : Path) (part : Text) : Path :=
  { path with parts := path.parts ++ [part] }

/-- A path that begins with a tilde begins with the home directory instead. The homes of other
users are not known. -/
def expand (home : Text) (path : Path) : Except Fault Path :=
  match path.root, path.parts with
  | [], ['~'] :: rest =>
    let home := read home
    .ok { home with parts := home.parts ++ rest }
  | [], ('~' :: _) :: _ => .error (.broken "Could not determine home directory.")
  | _, _ => .ok path

end Path

end CmdletShell
