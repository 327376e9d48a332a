import CmdletShell.Text.Case
import CmdletShell.Text.ClassTable

/-!
# Character classes

* `isWordChar`: letters, numbers and the low line, which make up words.
* `isPrintable`: characters that a quoted text shows as they are.
* `digit?`: the value of a decimal digit of any script.
-/

namespace CmdletShell.Text

/-- Letters, numbers and the low line. -/
def isWordChar (c : Char) : Bool :=
  if c.toNat < 128 then c.isAlphanum || c == '_' else inRanges alphanumericRanges c.toNat

/-- Characters that a quoted text shows as they are. -/
def isPrintable (c : Char) : Bool :=
  if c.toNat < 127 then 32 ≤ c.toNat else !inRanges unprintableRanges c.toNat

/-- The value of a decimal digit of any script. -/
def digit? (c : Char) : Option Nat :=
  (zeroDigits.find? fun first => first ≤ c.toNat && c.toNat < first + 10).map (c.toNat - ·)

/-- Whether the character is a decimal digit of any script. -/
def isDigit (c : Char) : Bool :=
  (digit? c).isSome

end CmdletShell.Text
