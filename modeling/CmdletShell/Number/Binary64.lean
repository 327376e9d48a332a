/-!
# Binary floating point numbers of 64 bits

A finite number is `± mantissa · 2 ^ exponent`. Every operation is exact arithmetic on fractions of
natural numbers followed by one rounding to the nearest number, a tie going to the even mantissa.

* `roundDiv`: a quotient rounded to the nearest whole number, a tie to the even one.
* `Binary64.ofRatio`: the number nearest to a fraction.
* `Binary64.ofDecimal`: the number nearest to a decimal one.
* `Binary64.sub`, `Binary64.scale`: difference, and product with a whole number.
* `Binary64.round`: the nearest whole number.
-/

namespace CmdletShell

/-- The quotient rounded to the nearest whole number, a tie to the even one. -/
def roundDiv (num den : Nat) : Nat :=
  let q := num / den
  let r := num % den
  if den < 2 * r || (2 * r == den && q % 2 == 1) then q + 1 else q

/-- A binary floating point number of 64 bits. -/
inductive Binary64 where
  /-- `± mantissa · 2 ^ exponent`, with the largest mantissa below `2 ^ 53` that it has, or the
  least exponent `-1074`. -/
  | finite (negative : Bool) (mantissa : Nat) (exponent : Int)
  /-- What lies beyond the largest finite number. -/
  | infinite (negative : Bool)
  /-- No number. -/
  | notANumber
  deriving DecidableEq, Repr, Inhabited

namespace Binary64

/-- Zero. -/
def zero (negative : Bool) : Binary64 :=
  .finite negative 0 (-1074)

/-- `num / den / 2 ^ exponent` as a fraction. -/
def scaled (num den : Nat) (exponent : Int) : Nat × Nat :=
  match exponent with
  | .ofNat e => (num, den * Nat.pow 2 e)
  | .negSucc e => (num * Nat.pow 2 (e + 1), den)

/-- The exponent at which `num / den` has a mantissa of 53 bits, or the least one. -/
def exponentFor (num den : Nat) : Int :=
  let e : Int := max ((num.log2 : Int) - den.log2 - 53) (-1074)
  let (n, d) := scaled num den e
  if Nat.pow 2 53 ≤ n / d then e + 1 else e

/-- The number nearest to `± num / den`. -/
def ofRatio (negative : Bool) (num den : Nat) : Binary64 :=
  if num = 0 then zero negative
  else
    let e := exponentFor num den
    let (n, d) := scaled num den e
    let m := roundDiv n d
    let (m, e) := if m = Nat.pow 2 53 then (Nat.pow 2 52, e + 1) else (m, e)
    if 971 < e then .infinite negative else .finite negative m e

/-- The number nearest to `± digits · 10 ^ exponent`. -/
def ofDecimal (negative : Bool) (digits : Nat) (exponent : Int) : Binary64 :=
  let size : Int := (Nat.toDigits 10 digits).length
  if digits = 0 then zero negative
  else if 310 < size + exponent then .infinite negative
  else if size + exponent < -330 then zero negative
  else match exponent with
    | .ofNat e => ofRatio negative (digits * Nat.pow 10 e) 1
    | .negSucc e => ofRatio negative digits (Nat.pow 10 (e + 1))

/-- The number nearest to a whole number. -/
def ofInt (n : Int) : Binary64 :=
  ofRatio (n < 0) n.natAbs 1

/-- `mantissa · 2 ^ exponent` as a fraction. -/
def ratio (mantissa : Nat) (exponent : Int) : Nat × Nat :=
  match exponent with
  | .ofNat e => (mantissa * Nat.pow 2 e, 1)
  | .negSucc e => (mantissa, Nat.pow 2 (e + 1))

/-- A number with its sign as a fraction. -/
def signed (negative : Bool) (n : Nat) : Int :=
  if negative then -(n : Int) else n

/-- The difference of two numbers. -/
def sub : Binary64 → Binary64 → Binary64
  | .finite s m e, .finite t k f =>
    let (a, b) := ratio m e
    let (c, d) := ratio k f
    let n := signed s a * d - signed t c * b
    if n = 0 then zero (m == 0 && s && !t) else ofRatio (n < 0) n.natAbs (b * d)
  | .infinite s, .infinite t => if s = t then .notANumber else .infinite s
  | .infinite s, .finite .. => .infinite s
  | .finite .., .infinite t => .infinite (!t)
  | _, _ => .notANumber

/-- The product with a whole number. -/
def scale (factor : Nat) : Binary64 → Binary64
  | .finite s m e =>
    let (a, b) := ratio m e
    ofRatio s (a * factor) b
  | x => x

/-- The nearest whole number, a tie going to the even one; zero for what is no finite number. -/
def round : Binary64 → Int
  | .finite s m e =>
    let (a, b) := ratio m e
    signed s (roundDiv a b)
  | _ => 0

/-- Whether the number is a zero. -/
def isZero : Binary64 → Bool
  | .finite _ m _ => m == 0
  | _ => false

end Binary64

end CmdletShell
