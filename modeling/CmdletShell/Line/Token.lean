import CmdletShell.Text.Blank

/-!
# Tokens of a command line

White space separates tokens, except between double quotes. The quotes themselves are no part of a
token, so a token may be quoted in part. A quote that is not closed runs to the end of the line, and
an empty token does not count.

* `tokenize`: the tokens of a line.
* `quote`: a line with each token in double quotes.
-/

namespace CmdletShell.Line

/-- A word counts as a token if it has a character. -/
def flush (word : Text) : List Text :=
  if word.isEmpty then [] else [word]

/-- The tokens of a line after a first part that ends with the characters `word` of a token, inside
quotes if `quoted`. -/
def scan (quoted : Bool) (word : Text) : Text → List Text
  | [] => flush word
  | c :: rest =>
    if c = '"' then scan (!quoted) word rest
    else if Text.isBlank c && !quoted then flush word ++ scan quoted [] rest
    else scan quoted (word ++ [c]) rest

/-- The tokens of a line. -/
def tokenize (line : Text) : List Text :=
  scan false [] line

/-- A line with each token in double quotes, and a space between two of them. -/
def quote (tokens : List Text) : Text :=
  Text.joinWith [' '] (tokens.map fun token => '"' :: token ++ ['"'])

theorem tokenize_nil : tokenize [] = [] := rfl

end CmdletShell.Line
