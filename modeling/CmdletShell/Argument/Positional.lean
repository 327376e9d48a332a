import CmdletShell.Text.Case

/-!
# Positional arguments

A token that begins with a dash and is longer than the dash is a flag; the flags that take a value
take the next token with them, whatever it is. All other tokens are positional.
-/

namespace CmdletShell.Argument

/-- Whether a token is a flag. -/
def isFlag : Text → Bool
  | '-' :: _ :: _ => true
  | _ => false

/-- Whether a token is one of the flags in any letter case. -/
def isOneOf (flags : List Text) (token : Text) : Bool :=
  (flags.map Text.lower).contains (Text.lower token)

/-- The positional arguments in order; `valueFlags` take a value. -/
def positionals (valueFlags : List Text) : List Text → List Text
  | [] => []
  | token :: rest =>
    if isFlag token then
      if isOneOf valueFlags token then
        match rest with
        | [] => []
        | _ :: rest => positionals valueFlags rest
      else positionals valueFlags rest
    else token :: positionals valueFlags rest

theorem positionals_cons_of_not_isFlag {token : Text} (h : isFlag token = false)
    (valueFlags rest : List Text) :
    positionals valueFlags (token :: rest) = token :: positionals valueFlags rest := by
  rw [positionals.eq_def]
  simp only [h, Bool.false_eq_true, if_false]

/-- A flag that takes no value is left out. -/
theorem positionals_cons_of_isFlag {valueFlags : List Text} {token : Text}
    (h : isFlag token = true) (hv : isOneOf valueFlags token = false) (rest : List Text) :
    positionals valueFlags (token :: rest) = positionals valueFlags rest := by
  rw [positionals.eq_def]
  simp only [h, hv, Bool.false_eq_true, if_true, if_false]

/-- A flag that takes a value takes the next token with it. -/
theorem positionals_cons_cons_of_isOneOf {valueFlags : List Text} {token : Text}
    (h : isFlag token = true) (hv : isOneOf valueFlags token = true) (value : Text)
    (rest : List Text) :
    positionals valueFlags (token :: value :: rest) = positionals valueFlags rest := by
  rw [positionals.eq_def]
  simp only [h, hv, if_true]

/-- The first positional argument. -/
def firstPositional (valueFlags args : List Text) : Option Text :=
  (positionals valueFlags args).head?

end CmdletShell.Argument
