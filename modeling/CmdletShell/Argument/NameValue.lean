import CmdletShell.Failure
import CmdletShell.Text.Blank

/-!
# A name and a value

The arguments of a variable's assignment. Each of the two may be given by its flag, `-Name` or
`-Value` in any letter case: in the same token after white space or a colon, or as the next token
whatever that is. The last value given for a flag counts. What is not given by flag is taken from
the other tokens in order, the name first.

* `readNameValue`: the name and the value, or the flag at the end that has no value.
-/

namespace CmdletShell.Argument

/-- One of the two parts. -/
inductive Slot where
  /-- The name. -/
  | name
  /-- The value. -/
  | value
  deriving DecidableEq, Repr

/-- The flag of a part without its dash, in lower case. -/
def Slot.flag : Slot → Text
  | .name => "name"
  | .value => "value"

/-- The parameter that a part fills. -/
def Slot.parameter : Slot → Text
  | .name => "Name"
  | .value => "Value"

/-- What has been read so far. -/
structure NameValue where
  /-- The last value of the name's flag. -/
  name : Option Text := none
  /-- The last value of the value's flag. -/
  value : Option Text := none
  /-- The other tokens in order. -/
  loose : List Text := []
  deriving DecidableEq, Repr, Inhabited

namespace NameValue

/-- Gives a part the text of its flag. -/
def set (slot : Slot) (text : Text) (read : NameValue) : NameValue :=
  match slot with
  | .name => { read with name := some text }
  | .value => { read with value := some text }

/-- Adds a token that belongs to no flag. -/
def add (token : Text) (read : NameValue) : NameValue :=
  { read with loose := read.loose ++ [token] }

/-- The name and the value: parts without a flag are taken from the other tokens. -/
def result (read : NameValue) : Option Text × Option Text :=
  match read.name, read.value with
  | some name, some value => (some name, some value)
  | some name, none => (some name, read.loose.head?)
  | none, some value => (read.loose.head?, some value)
  | none, none => (read.loose.head?, read.loose.tail.head?)

end NameValue

/-- The text that follows a flag in its own token: after white space or after a colon. -/
def attached? : Text → Option Text
  | [] => none
  | ':' :: rest => some rest
  | c :: rest => if Text.isBlank c then some (Text.stripLeft rest) else none

/-- The text that a token gives to a part, if the token holds both flag and text. -/
def insideFor? (slot : Slot) : Text → Option Text
  | '-' :: rest =>
    let size := slot.flag.length
    if (rest.take size).map Text.foldCase = slot.flag then attached? (rest.drop size) else none
  | _ => none

/-- The part and the text that a token gives, if it holds both flag and text. -/
def inside? (token : Text) : Option (Slot × Text) :=
  match insideFor? .name token with
  | some text => some (.name, text)
  | none => (insideFor? .value token).map fun text => (.value, text)

/-- The part whose flag a token is. -/
def bare? (token : Text) : Option Slot :=
  if Text.lower token = '-' :: Slot.name.flag then some .name
  else if Text.lower token = '-' :: Slot.value.flag then some .value
  else none

/-- Reads the tokens from left to right; the flag at the end without a value is reported. -/
def scanNameValue (read : NameValue) : List Text → Except (Slot × Text) NameValue
  | [] => .ok read
  | token :: rest =>
    match inside? token with
    | some (slot, text) => scanNameValue (read.set slot text) rest
    | none =>
      match bare? token with
      | none => scanNameValue (read.add token) rest
      | some slot =>
        match rest with
        | [] => .error (slot, token)
        | text :: rest => scanNameValue (read.set slot text) rest

/-- The name and the value of an assignment. -/
def readNameValue (args : List Text) : Except Failure (Option Text × Option Text) :=
  match scanNameValue {} args with
  | .ok read => .ok read.result
  | .error (slot, token) =>
    .error (.missing "Set-Variable" slot.parameter ("Set-Variable: " ++ token ++ " needs a value."))

end CmdletShell.Argument
