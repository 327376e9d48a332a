import CmdletShell.Pattern.Basic
import CmdletShell.Text.Numeral

/-!
# Reading patterns

A pattern is written with the usual signs: `.`, `^`, `$`, `|`, sets in square brackets, groups in
parentheses, the counts `*`, `+`, `?` and `{m,n}`, each of which may be followed by `?` for as few
as possible or by `+` for no second try, and a backslash before a letter for a class or an edge or
before any other sign for the sign itself. `Pattern.read?` gives nothing for a text that breaks
these rules.
-/

namespace CmdletShell.Pattern

/-- What is still to be read, and the names of groups seen so far. -/
structure Unread where
  /-- The text. -/
  text : Text
  /-- The names. -/
  names : List Text := []
  deriving Inhabited

/-- A step of reading. -/
abbrev Reader := StateT Unread Option

/-- The next character, which stays. -/
def peek : Reader (Option Char) :=
  return (← get).text.head?

/-- Leaves out characters. -/
def skip (count : Nat) : Reader Unit :=
  modify fun unread => { unread with text := unread.text.drop count }

/-- The next character, which has to be there. -/
def take : Reader Char := do
  match (← get).text with
  | [] => failure
  | c :: rest =>
    modify fun unread => { unread with text := rest }
    return c

/-- Whether a character comes next; if so it is read. -/
def accept (c : Char) : Reader Bool := do
  if (← peek) = some c then
    skip 1
    return true
  else return false

/-- Reads a character that has to come next. -/
def expect (c : Char) : Reader Unit := do
  if ← accept c then return () else failure

/-- The characters up to the first one for which `p` does not hold. -/
def takeWhile (p : Char → Bool) : Reader Text := do
  let taken := (← get).text.takeWhile p
  skip taken.length
  return taken

/-- The characters before a mark, which has to come and is read too. -/
def takeUntil (mark : Char) : Reader Text := do
  let taken ← takeWhile (· != mark)
  expect mark
  return taken

/-- A decimal digit among ASCII. -/
def isPlainDigit (c : Char) : Bool :=
  '0' ≤ c && c ≤ '9'

/-- A digit below eight. -/
def isOctal (c : Char) : Bool :=
  '0' ≤ c && c ≤ '7'

/-- A letter among ASCII. -/
def isPlainLetter (c : Char) : Bool :=
  c.isAlpha

/-- The number that digits of a base mean. -/
def numeral (base : Nat) (digits : Text) : Option Nat :=
  digits.foldlM (fun n c =>
    let value := if isPlainDigit c then c.toNat - 48 else c.toLower.toNat - 87
    if (isPlainDigit c || ('a' ≤ c.toLower && c.toLower ≤ 'f')) && value < base then
      some (n * base + value)
    else none) 0

/-- The character of a code point, if there is one. -/
def charOf (code : Nat) : Reader Char :=
  if code.isValidChar then return Char.ofNat code else failure

/-- The character written by `count` hexadecimal digits. -/
def readHex (count : Nat) : Reader Char := do
  let digits := (← get).text.take count
  if digits.length < count then failure
  else
    skip count
    match numeral 16 digits with
    | some code => charOf code
    | none => failure

/-- The character that a letter after a backslash stands for. -/
def controlOf? (c : Char) : Option Char :=
  match c with
  | 'a' => some '\x07'
  | 'f' => some '\x0c'
  | 'n' => some '\n'
  | 'r' => some '\r'
  | 't' => some '\t'
  | 'v' => some '\x0b'
  | _ => none

/-- The class that a letter after a backslash stands for. -/
def classOf? (c : Char) : Option (CharClass × Bool) :=
  match c with
  | 'd' => some (.digit, false)
  | 'D' => some (.digit, true)
  | 's' => some (.blank, false)
  | 'S' => some (.blank, true)
  | 'w' => some (.word, false)
  | 'W' => some (.word, true)
  | _ => none

/-- The edge that a letter after a backslash stands for. -/
def edgeOf? (c : Char) : Option Edge :=
  match c with
  | 'A' => some .textStart
  | 'Z' => some .textEnd
  | 'b' => some .wordEdge
  | 'B' => some .noWordEdge
  | _ => none

/-- The character written by up to three octal digits of which the first has been read. -/
def readOctal (first : Char) : Reader Char := do
  let digits := ((← get).text.take 2).takeWhile isOctal
  skip digits.length
  match numeral 8 (first :: digits) with
  | some code => if code < 256 then charOf code else failure
  | none => failure

/-- The character that a backslash and `c` stand for. -/
def readEscapedChar (c : Char) : Reader Char :=
  match controlOf? c with
  | some control => return control
  | none =>
    if c = 'x' then readHex 2
    else if c = 'u' then readHex 4
    else if c = 'U' then readHex 8
    else if c = '0' then readOctal c
    else if isPlainDigit c || isPlainLetter c then failure
    else return c

/-- The character that a backslash and `c` stand for outside a set, where three octal digits mean
one too. -/
def readEscapedSign (c : Char) : Reader Char := do
  if isOctal c && c != '0' && (((← get).text.take 2).filter isOctal).length == 2 then readOctal c
  else readEscapedChar c

/-- A member of a set after a backslash. -/
def readEscapedItem : Reader CharItem := do
  let c ← take
  match classOf? c with
  | some (kind, negated) => return .named kind negated
  | none =>
    if c = 'b' then return .single '\x08'
    else if isOctal c then return .single (← readOctal c)
    else return .single (← readEscapedChar c)

/-- A member of a set that begins with `c`. -/
def readItem (c : Char) : Reader CharItem :=
  if c = '\\' then readEscapedItem else return .single c

/-- The range between two members, which have to be characters in order. -/
def rangeOf (first last : CharItem) : Reader CharItem :=
  match first, last with
  | .single a, .single b => if a ≤ b then return .range a b else failure
  | _, _ => failure

/-- The members of a set up to its closing bracket, which may stand first as a member. `fuel`
bounds them. -/
def readItems : Nat → List CharItem → Reader (List CharItem)
  | 0, _ => failure
  | fuel + 1, items => do
    let c ← take
    if c = ']' && !items.isEmpty then return items.reverse
    else
      let item ← readItem c
      if ← accept '-' then
        let d ← take
        if d = ']' then return (.single '-' :: item :: items).reverse
        else
          let last ← readItem d
          readItems fuel ((← rangeOf item last) :: items)
      else readItems fuel (item :: items)

/-- A set whose opening bracket has been read. -/
def readSet : Reader CharSet := do
  let negated ← accept '^'
  let items ← readItems ((← get).text.length + 1) []
  return { negated, items }

/-- What a piece of a pattern is to a count after it. -/
inductive Role where
  /-- It can be repeated. -/
  | plain
  /-- It is an edge and cannot be repeated. -/
  | edge
  /-- It has a count already. -/
  | counted
  deriving DecidableEq, Repr, Inhabited

/-- A piece of a pattern. -/
structure Piece where
  /-- The pattern. -/
  pattern : Pattern
  /-- What it is to a count after it. -/
  role : Role := .plain
  deriving Inhabited

/-- A piece after a backslash. -/
def readEscapedPiece : Reader Piece := do
  let c ← take
  match edgeOf? c, classOf? c with
  | some kind, _ => return ⟨.edge kind, .edge⟩
  | none, some (kind, negated) => return ⟨.one (.ofClass kind negated), .plain⟩
  | none, none => return ⟨.one (.ofChar (← readEscapedSign c)), .plain⟩

/-- The counts after an opening brace, if they are well formed; else nothing is read. -/
def readCounts : Reader (Option (Nat × Option Nat)) := do
  let before ← get
  let low ← takeWhile isPlainDigit
  let comma ← accept ','
  let high ← takeWhile isPlainDigit
  let closed ← accept '\x7d'
  if !closed || (low.isEmpty && !comma) then
    set before
    return none
  else
    let least := (numeral 10 low).getD 0
    let most := if high.isEmpty then (if comma then none else some least) else numeral 10 high
    return some (least, most)

/-- The pieces after a count has been put to the last of them; the last piece stands first. -/
def countLast (least : Nat) (most : Option Nat) : List Piece → Reader (List Piece)
  | ⟨body, .plain⟩ :: pieces => do
    if most.any (· < least) then failure
    else if ← accept '?' then return ⟨.repeated body least most false, .counted⟩ :: pieces
    else if ← accept '+' then
      return ⟨.committed (.repeated body least most true), .counted⟩ :: pieces
    else return ⟨.repeated body least most true, .counted⟩ :: pieces
  | _ => failure

/-- The pattern of pieces of which the last stands first. -/
def join (pieces : List Piece) : Pattern :=
  pieces.foldl (fun rest piece =>
    match rest with
    | .empty => piece.pattern
    | _ => .both piece.pattern rest) .empty

/-- Whether a text can name a group. -/
def isGroupName (name : Text) : Bool :=
  name.all Text.isWordChar && name.head?.any fun c => !Text.isDigit c

/-- Notes the name of a group, which has to be new. -/
def noteName (name : Text) : Reader Unit := do
  if !isGroupName name || (← get).names.contains name then failure
  else modify fun unread => { unread with names := name :: unread.names }

/-- Leaves out a comment up to its closing parenthesis. -/
def skipComment : Nat → Reader Unit
  | 0 => failure
  | fuel + 1 => do
    let c ← take
    if c = ')' then return ()
    else if c = '\\' then
      let _ ← take
      skipComment fuel
    else skipComment fuel

mutual

/-- Patterns between bars. -/
def readChoice : Nat → Reader Pattern
  | 0 => failure
  | fuel + 1 => do
    let first ← readSequence fuel []
    if ← accept '|' then return .either first (← readChoice fuel) else return first

/-- Pieces up to a bar, a closing parenthesis or the end; those read so far stand reversed. -/
def readSequence : Nat → List Piece → Reader Pattern
  | 0, _ => failure
  | fuel + 1, pieces => do
    match ← peek with
    | none => return join pieces
    | some c =>
      if c = '|' || c = ')' then return join pieces
      else
        skip 1
        if c = '(' then
          match ← readGroup fuel with
          | some body => readSequence fuel (⟨body, .plain⟩ :: pieces)
          | none => readSequence fuel pieces
        else if c = '*' then readSequence fuel (← countLast 0 none pieces)
        else if c = '+' then readSequence fuel (← countLast 1 none pieces)
        else if c = '?' then readSequence fuel (← countLast 0 (some 1) pieces)
        else if c = '\x7b' then
          match ← readCounts with
          | some (least, most) => readSequence fuel (← countLast least most pieces)
          | none => readSequence fuel (⟨.one (.ofChar c), .plain⟩ :: pieces)
        else if c = '^' then readSequence fuel (⟨.edge .lineStart, .edge⟩ :: pieces)
        else if c = '$' then readSequence fuel (⟨.edge .lineEnd, .edge⟩ :: pieces)
        else if c = '.' then readSequence fuel (⟨.one .any, .plain⟩ :: pieces)
        else if c = '[' then readSequence fuel (⟨.one (← readSet), .plain⟩ :: pieces)
        else if c = '\\' then readSequence fuel ((← readEscapedPiece) :: pieces)
        else readSequence fuel (⟨.one (.ofChar c), .plain⟩ :: pieces)

/-- A group whose opening parenthesis has been read; nothing for a comment. -/
def readGroup : Nat → Reader (Option Pattern)
  | 0 => failure
  | fuel + 1 => do
    if ← accept '?' then
      let c ← take
      if c = '#' then
        skipComment ((← get).text.length + 1)
        return none
      else if c = ':' then return some (← readClosed fuel)
      else if c = '>' then return some (.committed (← readClosed fuel))
      else if c = 'P' then
        expect '<'
        noteName (← takeUntil '>')
        return some (← readClosed fuel)
      else failure
    else return some (← readClosed fuel)

/-- Patterns between bars and the closing parenthesis after them. -/
def readClosed : Nat → Reader Pattern
  | 0 => failure
  | fuel + 1 => do
    let body ← readChoice fuel
    expect ')'
    return body

end

/-- The pattern that a text describes. -/
def read? (text : Text) : Option Pattern :=
  match (readChoice (4 * text.length + 4)).run { text } with
  | some (pattern, unread) => if unread.text.isEmpty then some pattern else none
  | none => none

end CmdletShell.Pattern
