import CmdletShell.Number.Binary64
import CmdletShell.Text.Numeral

/-!
# Shortest decimal text

A floating point number is written with the fewest digits that are read back as the same number,
and among those the digits nearest to it. For each count of digits only the two neighbours of the
number on that decimal grid can be nearest, so these are tried.

* `Binary64.shortest`: the digits and the power of ten of the last of them.
* `Binary64.write`: positional from `10 ^ -4` up to `10 ^ 16`, always with a point; elsewhere one
  digit before the point and an exponent of at least two digits with its sign.
-/

namespace CmdletShell.Binary64

/-- Half the distance to the neighbours, as fractions of a fourth of the last place: below, above. -/
def quarterGaps (mantissa : Nat) (exponent : Int) : Nat × Nat :=
  if mantissa = Nat.pow 2 52 ∧ -1074 < exponent then (1, 2) else (2, 2)

/-- Whether `num / den` is read as `mantissa · 2 ^ exponent`. -/
def readsBack (mantissa : Nat) (exponent : Int) (num den : Nat) : Bool :=
  let (below, above) := quarterGaps mantissa exponent
  let (low, d) := ratio (4 * mantissa - below) (exponent - 2)
  let (high, _) := ratio (4 * mantissa + above) (exponent - 2)
  if mantissa % 2 = 0 then low * den ≤ num * d && num * d ≤ high * den
  else low * den < num * d && num * d < high * den

/-- The least `k` with `num / den < 10 ^ k`. -/
def magnitude (num den : Nat) : Int :=
  let k : Int := ((Nat.toDigits 10 num).length : Int) - (Nat.toDigits 10 den).length
  let fits : Bool := match k with
    | .ofNat e => num < den * Nat.pow 10 e
    | .negSucc e => num * Nat.pow 10 (e + 1) < den
  if fits then k else k + 1

/-- `n · 10 ^ exponent` as a fraction. -/
def decimalRatio (n : Nat) (exponent : Int) : Nat × Nat :=
  match exponent with
  | .ofNat e => (n * Nat.pow 10 e, 1)
  | .negSucc e => (n, Nat.pow 10 (e + 1))

/-- The neighbour on the grid of step `10 ^ place` that is read back, the nearer of two. -/
def onGrid? (mantissa : Nat) (exponent place : Int) : Option Nat :=
  let (num, den) := ratio mantissa exponent
  let (step, stepDen) := decimalRatio 1 place
  let low := num * stepDen / (den * step)
  let nearest := roundDiv (num * stepDen) (den * step)
  [nearest, low, low + 1].find? fun n =>
    let (a, b) := decimalRatio n place
    readsBack mantissa exponent a b

/-- The digits and the power of ten of the last one, trying `count` digits and more. -/
def shortestFrom (mantissa : Nat) (exponent top : Int) : Nat → Nat → Nat × Int
  | 0, count => (0, top - count)
  | fuel + 1, count =>
    match onGrid? mantissa exponent (top - count) with
    | some n => (n, top - count)
    | none => shortestFrom mantissa exponent top fuel (count + 1)

/-- The digits and the power of ten of the last one. Seventeen digits always suffice. -/
def shortest (mantissa : Nat) (exponent : Int) : Nat × Int :=
  let (num, den) := ratio mantissa exponent
  shortestFrom mantissa exponent (magnitude num den) 17 1

/-- The exponent of a text in scientific form. -/
def writeExponent (e : Int) : Text :=
  let digits := Text.writeNatural e.natAbs
  'e' :: (if e < 0 then '-' else '+') :: (if digits.length < 2 then '0' :: digits else digits)

/-- Digits whose last one counts `10 ^ place`, without sign. -/
def layout (digits : Text) (place : Int) : Text :=
  let point : Int := digits.length + place
  if -4 < point ∧ point ≤ 16 then
    if point ≤ 0 then '0' :: '.' :: List.replicate (-point).toNat '0' ++ digits
    else if 0 ≤ place then digits ++ List.replicate place.toNat '0' ++ ['.', '0']
    else digits.take point.toNat ++ '.' :: digits.drop point.toNat
  else
    match digits with
    | [] => []
    | [d] => d :: writeExponent (point - 1)
    | d :: more => d :: '.' :: more ++ writeExponent (point - 1)

/-- Digits without the zeros at their end; each of them raises the place by one. -/
def trimZeros (digits : Text) (place : Int) : Text × Int :=
  let kept := Text.dropRight (· == '0') digits
  (kept, place + (digits.length - kept.length : Nat))

/-- The shortest decimal text. -/
def write : Binary64 → Text
  | .finite s m e =>
    let body := if m = 0 then ['0', '.', '0'] else
      let (n, place) := shortest m e
      let (digits, place) := trimZeros (Text.writeNatural n) place
      layout digits place
    if s then '-' :: body else body
  | .infinite s => if s then "-inf" else "inf"
  | .notANumber => "nan"

end CmdletShell.Binary64
