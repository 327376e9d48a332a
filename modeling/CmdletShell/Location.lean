import CmdletShell.Failure

/-!
# Locations

A location is a path of segments between backslashes, usually after a drive such as `C:`.

* `hasDrive`: the path begins with a drive.
* `segments`: the pieces of a path that are not empty.
* `resolve`: where a change of location leads.
* `follow`: the same among values of any kind.
-/

namespace CmdletShell.Location

/-- The separator of segments. -/
def separator : Char := '\\'

/-- Whether a path begins with a drive: a letter and a colon. -/
def hasDrive : Text → Bool
  | letter :: ':' :: _ => letter.isAlpha
  | _ => false

/-- Whether a path is a drive and nothing else. -/
def isDrive (path : Text) : Bool :=
  hasDrive path && path.length == 2

/-- The pieces of a path that are not empty. -/
def segments (path : Text) : List Text :=
  (Text.splitAt separator path).filter (!·.isEmpty)

/-- The root of the drive of a path; the bare separator for a path without a drive. -/
def driveRoot (path : Text) : Text :=
  if hasDrive path then path.take 2 ++ [separator] else [separator]

/-- A path without the separators at its end. -/
def trimEnd (path : Text) : Text :=
  Text.dropRight (· == separator) path

/-- A path with its last piece left out, if it has more than one. -/
def dropLast (path : Text) : Text :=
  match Text.splitAt separator (trimEnd path) with
  | [piece] => piece
  | pieces => Text.joinWith [separator] pieces.dropLast

/-- The location above; there is none above the root of a drive. -/
def parent (current : Text) : Text :=
  let path := dropLast current
  if path.isEmpty || isDrive path then driveRoot current else path

/-- The location reached by going down a relative path. -/
def descend (current target : Text) : Text :=
  trimEnd current ++ separator :: Text.trim (· == separator) target

/-- What the target of a change of location asks for. -/
inductive Target where
  /-- The home. -/
  | home
  /-- A path of its own. -/
  | absolute (path : Text)
  /-- The current location. -/
  | here
  /-- The location above. -/
  | above
  /-- A path below the current location. -/
  | below (path : Text)
  deriving DecidableEq, Repr

/-- Reads a target. A slash counts as a backslash. -/
def Target.read (target : Text) : Target :=
  let target := Text.replace '/' separator target
  if target = "~" || target = "$HOME" then .home
  else if hasDrive target then .absolute target
  else if target = [] || target = "." then .here
  else if target = ".." then .above
  else .below target

/-- Where a change of location leads. -/
def resolve (current target home : Text) : Text :=
  match Target.read target with
  | .home => home
  | .absolute path => path
  | .here => current
  | .above => parent current
  | .below path => descend current path

/-- The location that a step makes of the current one, which has to be a text. -/
def step (f : Text → Text) : Value → Except Fault Value
  | .str current => .ok (.str (f current))
  | value => .error (.missingOperation value.kind "rstrip")

/-- Where a change of location leads when home, location and target may be values of any kind: a
target has to be a text, and so has a location that the path goes on from. -/
def follow (current target home : Value) : Except Fault Value :=
  match target with
  | .str target =>
    match Target.read target with
    | .home => .ok home
    | .absolute path => .ok (.str path)
    | .here => .ok current
    | .above => step parent current
    | .below path => step (descend · path) current
  | value => .error (.missingOperation value.kind "replace")

theorem follow_str (current target home : Text) :
    follow (.str current) (.str target) (.str home) = .ok (.str (resolve current target home)) := by
  simp only [follow, resolve]
  cases Target.read target <;> rfl

end CmdletShell.Location
