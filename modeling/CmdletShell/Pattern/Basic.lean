import CmdletShell.Text.Blank
import CmdletShell.Text.Class

/-!
# Patterns

A pattern describes texts. It is tried at one place of a text after another, with its choices taken
in order: what comes first wins, and later choices count only if the rest of the pattern fails.

* `Pattern.run`: tries a pattern at a place and goes on with a continuation.
* `Pattern.findAll`: all matches in a text, from left to right, none inside another.
-/

namespace CmdletShell

/-- A class of characters with a name. -/
inductive CharClass where
  /-- Decimal digits. -/
  | digit
  /-- White space. -/
  | blank
  /-- Letters, numbers and the low line. -/
  | word
  deriving DecidableEq, Repr, Inhabited

/-- Whether a character belongs to a class. -/
def CharClass.holds (c : Char) : CharClass → Bool
  | .digit => Text.isDigit c
  | .blank => Text.isBlank c
  | .word => Text.isWordChar c

/-- A part of a set of characters. -/
inductive CharItem where
  /-- One character. -/
  | single (c : Char)
  /-- All characters between two, and these. -/
  | range (first last : Char)
  /-- A class, or what is outside of it. -/
  | named (kind : CharClass) (negated : Bool)
  deriving DecidableEq, Repr, Inhabited

/-- Whether a part of a set holds a character, in any letter case if that is asked. -/
def CharItem.holds (anyCase : Bool) (c : Char) : CharItem → Bool
  | .single d => if anyCase then Text.foldCase c == Text.foldCase d else c == d
  | .range first last =>
    (if anyCase then Text.caseVariants c else [c]).any fun d => first ≤ d && d ≤ last
  | .named kind negated => kind.holds c != negated

/-- A set of characters. -/
structure CharSet where
  /-- Whether the set is what is outside of its parts. -/
  negated : Bool := false
  /-- The parts. -/
  items : List CharItem
  deriving DecidableEq, Repr, Inhabited

/-- Whether a set holds a character. -/
def CharSet.holds (anyCase : Bool) (c : Char) (set : CharSet) : Bool :=
  set.items.any (·.holds anyCase c) != set.negated

/-- The set of one character. -/
def CharSet.ofChar (c : Char) : CharSet := { items := [.single c] }

/-- The set of a class, or of what is outside of it. -/
def CharSet.ofClass (kind : CharClass) (negated : Bool) : CharSet :=
  { items := [.named kind negated] }

/-- All characters but the line feed. -/
def CharSet.any : CharSet := { negated := true, items := [.single '\n'] }

/-- A place between two characters that a pattern may ask for. -/
inductive Edge where
  /-- The start of a line. -/
  | lineStart
  /-- The end of a line. -/
  | lineEnd
  /-- The start of the text. -/
  | textStart
  /-- The end of the text. -/
  | textEnd
  /-- The start or the end of a word. -/
  | wordEdge
  /-- Any place of a text that is neither, if the text is not empty. -/
  | noWordEdge
  deriving DecidableEq, Repr, Inhabited

/-- A place in a text. -/
structure Place where
  /-- The count of characters before it. -/
  index : Nat
  /-- The character before it. -/
  before : Option Char
  /-- The text after it. -/
  rest : Text
  deriving DecidableEq, Repr, Inhabited

namespace Place

/-- The start of a text. -/
def start (text : Text) : Place := ⟨0, none, text⟩

/-- The place after the next character. -/
def next? : Place → Option Place
  | ⟨_, _, []⟩ => none
  | ⟨index, _, c :: rest⟩ => some ⟨index + 1, some c, rest⟩

/-- Whether there is a character that belongs to a word. -/
def isWord (c : Option Char) : Bool :=
  c.any Text.isWordChar

/-- Whether a place is an edge. -/
def isAt (place : Place) : Edge → Bool
  | .lineStart => place.before.all (· == '\n')
  | .lineEnd => place.rest.head?.all (· == '\n')
  | .textStart => place.before.isNone
  | .textEnd => place.rest.isEmpty
  | .wordEdge => isWord place.before != isWord place.rest.head?
  | .noWordEdge =>
    (place.before.isSome || !place.rest.isEmpty) &&
      isWord place.before == isWord place.rest.head?

end Place

/-- A pattern. -/
inductive Pattern where
  /-- Nothing. -/
  | empty
  /-- A character of a set. -/
  | one (set : CharSet)
  /-- No character, at an edge. -/
  | edge (kind : Edge)
  /-- One pattern after another. -/
  | both (first second : Pattern)
  /-- One of two patterns, the first if possible. -/
  | either (first second : Pattern)
  /-- A pattern several times: as often as possible if it is eager, else as rarely. -/
  | repeated (body : Pattern) (least : Nat) (most : Option Nat) (eager : Bool)
  /-- A pattern whose first match is the only one tried. -/
  | committed (body : Pattern)
  deriving DecidableEq, Repr, Inhabited

/-- What is still to be matched at a place: the place where all of it ends. -/
abbrev Continuation := Place → Option Place

/-- Takes a step `count` times. -/
def repeatStep (step : Continuation → Continuation) : Nat → Continuation → Continuation
  | 0, go => go
  | count + 1, go => step (repeatStep step count go)

/-- Takes a step at most `fuel` times more. A step that leads nowhere is the last one. -/
def repeatFurther (step : Continuation → Continuation) (eager : Bool) (go : Continuation) :
    Nat → Continuation
  | 0, place => go place
  | fuel + 1, place =>
    let further := fun (_ : Unit) =>
      step (fun other =>
        if other.index = place.index then go other
        else repeatFurther step eager go fuel other) place
    if eager then further () <|> go place else go place <|> further ()

namespace Pattern

/-- Tries a pattern at a place and goes on where it ends. -/
def run (anyCase : Bool) : Pattern → Continuation → Continuation
  | .empty, go => go
  | .one set, go => fun place =>
    match place.rest with
    | [] => none
    | c :: rest =>
      if set.holds anyCase c then go ⟨place.index + 1, some c, rest⟩ else none
  | .edge kind, go => fun place => if place.isAt kind then go place else none
  | .both first second, go => run anyCase first (run anyCase second go)
  | .either first second, go => fun place =>
    run anyCase first go place <|> run anyCase second go place
  | .repeated body least most eager, go =>
    repeatStep (run anyCase body) least fun place =>
      repeatFurther (run anyCase body) eager go
        (match most with
          | some most => most - least
          | none => place.rest.length)
        place
  | .committed body, go => fun place => (run anyCase body some place).bind go

/-- The matches from a place on, as pairs of start and end. Where `advance` is set, a match at the
place itself may not be empty. `fuel` bounds the steps. -/
def findFrom (anyCase : Bool) (pattern : Pattern) : Nat → Bool → Place → List (Nat × Nat)
  | 0, _, _ => []
  | fuel + 1, advance, place =>
    let accept : Continuation := fun other =>
      if advance && other.index == place.index then none else some other
    match run anyCase pattern accept place with
    | some other =>
      (place.index, other.index) ::
        findFrom anyCase pattern fuel (other.index == place.index) other
    | none =>
      match place.next? with
      | some other => findFrom anyCase pattern fuel false other
      | none => []

/-- All matches in a text. -/
def findAll (anyCase : Bool) (pattern : Pattern) (text : Text) : List (Nat × Nat) :=
  findFrom anyCase pattern (2 * text.length + 2) false (Place.start text)

end Pattern

end CmdletShell
