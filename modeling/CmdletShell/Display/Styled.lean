import CmdletShell.Failure

/-!
# Styled texts

A styled text has a style as a whole and styles for parts of it. Control characters that would
disturb a terminal are left out of it.

* `StyledText.plain`: a text without styles.
* `StyledText.append`: more text with a style of its own.
* `StyledText.mark`: a style for a part.
-/

namespace CmdletShell.Display

/-- A style for a part of a text. -/
structure Span where
  /-- The place of its first character. -/
  start : Nat
  /-- The place after its last character. -/
  stop : Nat
  /-- The style. -/
  style : Value

/-- A text with styles. -/
structure StyledText where
  /-- The text. -/
  text : Text
  /-- The style of the whole. -/
  style : Value := .str []
  /-- The styles of parts. -/
  spans : List Span := []
  deriving Inhabited

/-- Whether a character may stand in a styled text: not the bell, the backspace, the vertical tab,
the form feed and the carriage return. -/
def isShown (c : Char) : Bool :=
  let n := c.toNat
  n != 7 && n != 8 && n != 11 && n != 12 && n != 13

namespace StyledText

/-- A text without styles. -/
def plain (text : Text) : StyledText :=
  { text := text.filter isShown }

/-- A text with a style of the whole. -/
def ofStyle (text : Text) (style : Value) : StyledText :=
  { text := text.filter isShown, style }

/-- A style for a part of a text. -/
def mark (style : Value) (start stop : Nat) (styled : StyledText) : StyledText :=
  { styled with spans := styled.spans ++ [⟨start, stop, style⟩] }

/-- More text. -/
def append (text : Text) (styled : StyledText) : StyledText :=
  { styled with text := styled.text ++ text.filter isShown }

/-- A text that begins with a styled label. -/
def labelled (label style text : Text) : StyledText :=
  ((plain label).mark (.str style) 0 label.length).append text

end StyledText

end CmdletShell.Display
