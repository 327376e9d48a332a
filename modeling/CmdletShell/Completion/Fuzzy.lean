import CmdletShell.Text.Case

/-!
# Fuzzy matching

A word matches what is typed if it has the typed characters in order, on one line and in any letter
case. Of several matches in a word the one furthest to the left counts, up to the first place
where the typed characters are used up.

* `Match.find?`: the match in a word.
* `choose`: the words that match, best match first.
* `Match.pieces`: a word with its match marked.
-/

namespace CmdletShell.Completion

/-- Whether two characters differ in case at most. -/
def sameFolded (a b : Char) : Bool :=
  Text.foldCase a == Text.foldCase b

/-- The length of the shortest start of a text that has the typed characters in order. -/
def reach : Text → Text → Option Nat
  | [], _ => some 0
  | _ :: _, [] => none
  | t :: typed, c :: rest =>
    if sameFolded t c then (reach typed rest).map (· + 1)
    else if c = '\n' then none
    else (reach (t :: typed) rest).map (· + 1)

/-- A match: where it starts, and how long it is. -/
structure Match where
  /-- The place of its first character. -/
  start : Nat
  /-- The count of its characters. -/
  size : Nat
  deriving DecidableEq, Repr, Inhabited

namespace Match

/-- The match furthest to the left. -/
def find? (typed : Text) : Text → Option Match
  | [] => if typed.isEmpty then some ⟨0, 0⟩ else none
  | c :: rest =>
    let here :=
      match typed with
      | [] => some 0
      | t :: _ => if sameFolded t c then reach typed (c :: rest) else none
    match here with
    | some size => some ⟨0, size⟩
    | none => (find? typed rest).map fun found => { found with start := found.start + 1 }

/-- Whether a match does not come after another: by its start, then by its length. -/
def le (a b : Match) : Bool :=
  a.start < b.start || (a.start == b.start && a.size ≤ b.size)

end Match

/-- The words that match, best match first; words whose matches are alike keep their order. If
nothing is typed, all words match. -/
def choose (typed : Text) (words : List Text) : List (Match × Text) :=
  (words.filterMap fun word => (Match.find? typed word).map fun found => (found, word)).mergeSort
    fun a b => a.1.le b.1

/-- The marks of the characters of a match: those that were typed stand out. -/
def markTyped : Text → Text → List (Text × Text)
  | _, [] => []
  | t :: typed, c :: rest =>
    if Text.sameLower [c] [t] then
      ("class:fuzzymatch.inside.character", [c]) :: markTyped typed rest
    else ("class:fuzzymatch.inside", [c]) :: markTyped (t :: typed) rest
  | [], c :: rest => ("class:fuzzymatch.inside", [c]) :: markTyped [] rest

/-- A word as styled pieces that mark its match. -/
def Match.pieces (typed word : Text) (found : Match) : List (Text × Text) :=
  if found.size = 0 then [([], word)]
  else
    let outside (text : Text) : Text × Text := ("class:fuzzymatch.outside", text)
    outside (word.take found.start) ::
      (markTyped typed ((word.drop found.start).take found.size) ++
        [outside (word.drop (found.start + found.size))])

end CmdletShell.Completion
