import CmdletShell.Text.Basic
import CmdletShell.Text.CaseTable

/-!
# Letter case

* `lower`: the lower case of a text. Case maps one code point to one, but for the dotted capital
  I, which keeps its dot as a combining mark, and for the capital sigma, which has a form of its
  own at the end of a word.
* `upper`: the upper case of a text, where some code points become two or three.
* `foldCase`: one character for all that differ in case only, for matching that ignores case.
* `caseVariants`: all those characters.
-/

namespace CmdletShell.Text

/-- Whether a code point lies in one of the ranges. -/
def inRanges (ranges : List (Nat × Nat)) (n : Nat) : Bool :=
  ranges.any fun (first, last) => first ≤ n && n ≤ last

/-- The code point that a table of runs gives, itself where no run holds it. -/
def mapRuns (runs : List (Nat × Nat × Nat × Int)) (c : Char) : Char :=
  let n := c.toNat
  match runs.find? fun (first, last, step, _) =>
      first ≤ n && n ≤ last && (n - first) % step == 0 with
  | some (_, _, _, shift) => Char.ofNat (n + shift).toNat
  | none => c

/-- The lower case of a character among ASCII, by the table elsewhere. -/
def lowerChar (c : Char) : Char :=
  if c.toNat < 128 then c.toLower else mapRuns lowerRuns c

/-- The upper case of a character that has one of a single character. -/
def upperChar (c : Char) : Char :=
  if c.toNat < 128 then c.toUpper else mapRuns upperRuns c

/-- Whether the character has case and is not ignored when that is asked. -/
def isCased (c : Char) : Bool :=
  if c.toNat < 128 then c.isAlpha else inRanges casedRanges c.toNat

/-- Whether the character is ignored when the case of its neighbours is asked. -/
def isCaseIgnorable (c : Char) : Bool :=
  inRanges caseIgnorableRanges c.toNat

/-- Whether the first character that is not ignored has case. -/
def startsCased : Text → Bool
  | [] => false
  | c :: rest => if isCaseIgnorable c then startsCased rest else isCased c

/-- The lower case of `c` before `rest`; `afterCased` tells whether a character with case stands
before it. -/
def lowerAt (afterCased : Bool) (c : Char) (rest : Text) : Text :=
  if c = 'İ' then ['i', '\u0307']
  else if c = 'Σ' then (if afterCased && !startsCased rest then ['ς'] else ['σ'])
  else [lowerChar c]

/-- The lower case of the rest of a text after what `afterCased` tells. -/
def lowerFrom (afterCased : Bool) : Text → Text
  | [] => []
  | c :: rest =>
    lowerAt afterCased c rest ++
      lowerFrom (if isCaseIgnorable c then afterCased else isCased c) rest

/-- The lower case of a text. -/
def lower (text : Text) : Text :=
  if text.all (·.toNat < 128) then text.map lowerChar else lowerFrom false text

/-- The upper case of a text. -/
def upper (text : Text) : Text :=
  text.flatMap fun c =>
    if c.toNat < 128 then [upperChar c]
    else match upperExpansions.find? (·.1 == c.toNat) with
      | some (_, form) => form.map Char.ofNat
      | none => [upperChar c]

/-- One character for all that differ from `c` in case only. -/
def foldCase (c : Char) : Char :=
  if c = 'İ' then 'i'
  else
    let l := lowerChar c
    match caseTwins.find? (·.1 == l.toNat) with
    | some (_, twin) => Char.ofNat twin
    | none => l

/-- The characters that the table sends to a code point in lower case. -/
def raised (n : Nat) : List Char :=
  (lowerRuns.filterMap fun (first, last, step, shift) =>
    let m := ((n : Int) - shift).toNat
    if first ≤ m && m ≤ last && (m - first) % step == 0 then some (Char.ofNat m) else none)

/-- All characters that differ from `c` in case only, and `c` itself. -/
def caseVariants (c : Char) : List Char :=
  let folded := (foldCase c).toNat
  let low := folded :: (caseTwins.filter (·.2 == folded)).map (·.1)
  (if folded = 105 then ['İ'] else []) ++
    (low.map Char.ofNat ++ low.flatMap raised).filter fun d => foldCase d == foldCase c

/-- Whether two texts are equal but for case. -/
def sameLower (a b : Text) : Bool :=
  lower a == lower b

end CmdletShell.Text
