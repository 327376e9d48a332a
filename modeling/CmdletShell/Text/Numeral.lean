import CmdletShell.Text.Blank
import CmdletShell.Text.Class

/-!
# Whole numbers as text

* `Integer.read?`: the number that a text means: white space around it, a sign, decimal digits of
  any script with single low lines between them, at most 4300 digits.
* `Integer.write`: the shortest decimal text of a number.
-/

namespace CmdletShell.Text

/-- The most digits that a whole number may be read from. -/
def digitLimit : Nat := 4300

/-- The value of decimal digits after a first part worth `value`. -/
def digitsValue (value : Nat) (digits : List Nat) : Nat :=
  digits.foldl (fun v d => 10 * v + d) value

/-- The digits of a text in which single low lines may stand between two digits. -/
def groupedDigits? : Text → Option (List Nat)
  | [] => none
  | [c] => (digit? c).map fun d => [d]
  | c :: '_' :: rest => do
    let d ← digit? c
    let more ← groupedDigits? rest
    return d :: more
  | c :: rest => do
    let d ← digit? c
    let more ← groupedDigits? rest
    return d :: more

/-- White space that may stand around a number: the separators of files, groups, records and units
do not count. -/
def isNumberBlank (c : Char) : Bool :=
  isBlank c && !(28 ≤ c.toNat && c.toNat ≤ 31)

/-- The natural number that a run of digits means. -/
def readNatural? (text : Text) : Option Nat := do
  let digits ← groupedDigits? text
  if digits.length ≤ digitLimit then return digitsValue 0 digits else none

/-- The whole number that a text means. -/
def readInteger? (text : Text) : Option Int :=
  match trim isNumberBlank text with
  | '-' :: rest => (readNatural? rest).map fun n => -(n : Int)
  | '+' :: rest => (readNatural? rest).map Int.ofNat
  | rest => (readNatural? rest).map Int.ofNat

/-- The decimal digits of a natural number. -/
def writeNatural (n : Nat) : Text :=
  Nat.toDigits 10 n

/-- The decimal text of a whole number. -/
def writeInteger (n : Int) : Text :=
  match n with
  | .ofNat m => writeNatural m
  | .negSucc m => '-' :: writeNatural (m + 1)

end CmdletShell.Text
