import CmdletShell.Text.Class

/-!
# Quoted texts

How a text is shown inside a list or a message: in single quotes, or in double quotes if it holds a
single quote and no double one. A backslash and the quote in use are escaped, line ends and tabs
are written as letters, and other unprintable characters by number.
-/

namespace CmdletShell.Text

/-- The digit for a number below 16. -/
def hexDigit (n : Nat) : Char :=
  Nat.digitChar n

/-- A number in `width` hexadecimal digits. -/
def hex : Nat → Nat → Text
  | 0, _ => []
  | width + 1, n => hex width (n / 16) ++ [hexDigit (n % 16)]

/-- A character inside quotes of the kind `mark`. -/
def quoteChar (mark c : Char) : Text :=
  if c = mark || c = '\\' then ['\\', c]
  else if c = '\n' then ['\\', 'n']
  else if c = '\r' then ['\\', 'r']
  else if c = '\t' then ['\\', 't']
  else if isPrintable c then [c]
  else if c.toNat < 0x100 then ['\\', 'x'] ++ hex 2 c.toNat
  else if c.toNat < 0x10000 then ['\\', 'u'] ++ hex 4 c.toNat
  else ['\\', 'U'] ++ hex 8 c.toNat

/-- The text in quotes. -/
def quoted (text : Text) : Text :=
  let mark := if text.contains '\'' && !text.contains '"' then '"' else '\''
  mark :: text.flatMap (quoteChar mark) ++ [mark]

end CmdletShell.Text
