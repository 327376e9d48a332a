import CmdletShell.Number.Shortest

/-!
# Numbers

A number is a whole one of any size or a floating point one. Readings of a timer and of memory are
such numbers.

* `Number.sub`: exact between whole numbers, else floating.
* `elapsedMillis`: whole milliseconds between two readings in seconds, never negative.
* `Number.fixed`: a fixed count of decimal places.
-/

namespace CmdletShell

/-- A whole number or a floating point one. -/
inductive Number where
  /-- A whole number of any size. -/
  | int (n : Int)
  /-- A floating point number. -/
  | float (x : Binary64)
  deriving DecidableEq, Repr, Inhabited

namespace Number

/-- The floating point number nearest to a number. -/
def toBinary64 : Number → Binary64
  | .int n => Binary64.ofInt n
  | .float x => x

/-- The difference: exact between whole numbers, else floating. -/
def sub : Number → Number → Number
  | .int a, .int b => .int (a - b)
  | a, b => .float (Binary64.sub a.toBinary64 b.toBinary64)

/-- The product with a whole number. -/
def scale (factor : Nat) : Number → Number
  | .int a => .int (factor * a)
  | .float x => .float (x.scale factor)

/-- The nearest whole number, a tie going to the even one. -/
def round : Number → Int
  | .int n => n
  | .float x => x.round

/-- Groups of three from the left, with commas between them. -/
def groupedLeft : Text → Text
  | a :: b :: c :: d :: more => a :: b :: c :: ',' :: groupedLeft (d :: more)
  | short => short

/-- Groups of three digits from the right, with commas between them. -/
def grouped (digits : Text) : Text :=
  (groupedLeft digits.reverse).reverse

/-- How a number with fixed places is written. -/
structure FixedFormat where
  /-- Count of decimal places. -/
  places : Nat
  /-- Whether a sign stands before a number that is not negative too. -/
  plus : Bool
  /-- Whether commas separate thousands. -/
  commas : Bool

/-- The text of a number with fixed places, the last one rounded to the nearest, a tie to even. -/
def fixed (format : FixedFormat) (x : Number) : Text :=
  match x.toBinary64 with
  | .finite s m e =>
    let (num, den) := Binary64.ratio m e
    let digits := Text.writeNatural (roundDiv (num * Nat.pow 10 format.places) den)
    let digits := List.replicate (format.places + 1 - digits.length) '0' ++ digits
    let whole := digits.take (digits.length - format.places)
    let whole := if format.commas then grouped whole else whole
    let part := digits.drop (digits.length - format.places)
    let sign : Text := if s then ['-'] else if format.plus then ['+'] else []
    sign ++ whole ++ (if part.isEmpty then [] else '.' :: part)
  | .infinite s => (if s then "-inf" else if format.plus then "+inf" else "inf")
  | .notANumber => if format.plus then "+nan" else "nan"

end Number

/-- Whole milliseconds between two readings in seconds, a tie going to the even one; none if the
timer ran backwards. -/
def elapsedMillis (start stop : Number) : Nat :=
  ((stop.sub start).scale 1000).round.toNat

end CmdletShell
