import CmdletShell.Text.Basic

/-!
# Wildcard patterns

In a pattern `*` stands for any characters, `?` for one, and a set in square brackets for one of its
members, or for one that is no member if `!` stands first. A bracket without a partner stands for
itself. A closing bracket that is the first member of a set is one; between two members a hyphen
makes them the ends of a range, and a range whose ends are in the wrong order has no members. If
only such ranges stand before a `!`, it counts as standing first.

* `Glob.parse`: the pieces of a pattern.
* `Glob.covers`: whether a pattern matches a whole text.
-/

namespace CmdletShell.Glob

/-- A member of a set, or the range between two. -/
inductive Member where
  /-- A character. -/
  | one (c : Char)
  /-- The characters from one to another. -/
  | range (first last : Char)
  deriving DecidableEq, Repr

namespace Member

/-- Whether a character is meant. -/
def contains (c : Char) : Member → Bool
  | .one d => c == d
  | .range first last => first ≤ c && c ≤ last

/-- Whether the member is a range with its ends in the wrong order. -/
def isInverted : Member → Bool
  | .one _ => false
  | .range first last => last < first

end Member

/-- A piece of a pattern. -/
inductive Piece where
  /-- A character. -/
  | char (c : Char)
  /-- Any character. -/
  | any
  /-- A character of a set, or one outside it. -/
  | set (negated : Bool) (members : List Member)
  /-- Any characters. -/
  | star
  deriving DecidableEq, Repr

/-- The members that a text between brackets lists. -/
def members : Text → List Member
  | a :: '-' :: b :: rest => .range a b :: members rest
  | a :: rest => .one a :: members rest
  | [] => []

/-- The set that the members mean, unless `!` stands first. -/
def setOf (listed : List Member) : Piece :=
  let left := listed.dropWhile Member.isInverted
  if left.length < listed.length then
    match left with
    | .one '!' :: more => .set true more
    | .range '!' last :: more => .set true (.one '-' :: .one last :: more)
    | _ => .set false left
  else .set false listed

/-- The set that a text between brackets means. -/
def setPiece : Text → Piece
  | '!' :: rest => .set true (members rest)
  | body => setOf (members body)

/-- The text between an opening bracket and its partner, and the text after that. -/
def body? (text : Text) : Option (Text × Text) :=
  let (mark, rest) := match text with
    | '!' :: rest => (['!'], rest)
    | rest => ([], rest)
  let (first, rest) := match rest with
    | ']' :: rest => ([']'], rest)
    | rest => ([], rest)
  match rest.dropWhile (· ≠ ']') with
  | _ :: after => some (mark ++ first ++ rest.takeWhile (· ≠ ']'), after)
  | [] => none

/-- The pieces of a pattern; `fuel` bounds their count. -/
def parseFrom : Nat → Text → List Piece
  | 0, _ => []
  | _, [] => []
  | fuel + 1, c :: rest =>
    if c = '*' then
      match parseFrom fuel rest with
      | .star :: more => .star :: more
      | more => .star :: more
    else if c = '?' then .any :: parseFrom fuel rest
    else if c = '[' then
      match body? rest with
      | some (body, after) => setPiece body :: parseFrom fuel after
      | none => .char '[' :: parseFrom fuel rest
    else .char c :: parseFrom fuel rest

/-- The pieces of a pattern. -/
def parse (pattern : Text) : List Piece :=
  parseFrom pattern.length pattern

/-- Whether a piece that stands for one character stands for this one. -/
def Piece.accepts (c : Char) : Piece → Bool
  | .char d => c == d
  | .any => true
  | .set negated members =>
    negated != members.any fun member => !member.isInverted && member.contains c
  | .star => false

/-- Whether some end of a text satisfies `p`. -/
def anyEnd (p : Text → Bool) : Text → Bool
  | [] => p []
  | c :: rest => p (c :: rest) || anyEnd p rest

/-- Whether pieces match a whole text. -/
def matchPieces : List Piece → Text → Bool
  | [], text => text.isEmpty
  | .star :: pieces, text => anyEnd (matchPieces pieces) text
  | piece :: pieces, c :: rest => piece.accepts c && matchPieces pieces rest
  | _ :: _, [] => false

/-- Whether a pattern matches a whole text. -/
def covers (pattern text : Text) : Bool :=
  matchPieces (parse pattern) text

end CmdletShell.Glob
