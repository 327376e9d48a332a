import CmdletShell.Text.Blank
import CmdletShell.Text.Case

/-!
# Flags

A flag is a token such as `-Path`, in any letter case. Its value is the next token, or stands in the
same token after a colon, or after a space if the whole was quoted.

* `flagValue`: the value given to a flag by the first token that carries it.
* `nonEmpty`: an empty value counts as none.
-/

namespace CmdletShell.Argument

/-- An empty value counts as none. -/
def nonEmpty (value : Text) : Option Text :=
  if value.isEmpty then none else some value

/-- What a token with the flag's name at its start says about the flag. -/
inductive Mention where
  /-- The value stands in the token itself. -/
  | inside (value : Option Text)
  /-- The token is the flag, so that the value is the next token. -/
  | before
  /-- The token is another flag whose name is longer. -/
  | other
  deriving DecidableEq, Repr

/-- The first word of what follows a space. -/
def firstWord (text : Text) : Text :=
  (Text.strip text).takeWhile (· ≠ ' ')

/-- What the rest of a token after the flag's name says. -/
def Mention.ofRest : Text → Mention
  | [] => .before
  | ' ' :: rest => .inside (nonEmpty (firstWord rest))
  | ':' :: rest => .inside (nonEmpty rest)
  | _ => .other

/-- What a token says about a flag; a token that does not begin with its name says nothing. -/
def mention (flag token : Text) : Mention :=
  if (Text.lower flag).isPrefixOf (Text.lower token) then Mention.ofRest (token.drop flag.length)
  else .other

/-- The value that the first token carrying the flag gives to it: `none` if no token carries it or
if it carries no value. -/
def flagValue (flag : Text) : List Text → Option Text
  | [] => none
  | token :: rest =>
    match mention flag token with
    | .inside value => value
    | .before => rest.head?
    | .other => flagValue flag rest

theorem flagValue_cons_of_other {flag token : Text} (h : mention flag token = .other)
    (rest : List Text) : flagValue flag (token :: rest) = flagValue flag rest := by
  rw [flagValue, h]

theorem nonEmpty_of_ne_nil {value : Text} (h : value ≠ []) : nonEmpty value = some value := by
  rw [nonEmpty, if_neg (by simpa using h)]

end CmdletShell.Argument
