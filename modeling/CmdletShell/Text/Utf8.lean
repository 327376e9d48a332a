import CmdletShell.Text.Basic

/-!
# Texts as bytes

* `encode`: the UTF-8 bytes of a text.
* `decode?`: the text of UTF-8 bytes. Forms longer than needed, halves of surrogate pairs and
  numbers above the last code point are no characters, so every text has one form.
-/

namespace CmdletShell.Text.Utf8

/-- The bytes of a code point. -/
def encodeChar (c : Char) : List Nat :=
  let n := c.toNat
  if n < 0x80 then [n]
  else if n < 0x800 then [0xC0 + n / 64, 0x80 + n % 64]
  else if n < 0x10000 then [0xE0 + n / 4096, 0x80 + n / 64 % 64, 0x80 + n % 64]
  else [0xF0 + n / 262144, 0x80 + n / 4096 % 64, 0x80 + n / 64 % 64, 0x80 + n % 64]

/-- The bytes of a text. -/
def encode (text : Text) : List Nat :=
  text.flatMap encodeChar

/-- A byte that continues a code point. -/
def isTail (b : Nat) : Bool :=
  0x80 ≤ b && b ≤ 0xBF

/-- The code point `n` if it is one and needs the form it was read from. -/
def codePoint? (least n : Nat) : Option Char :=
  if h : n.isValidChar then if least ≤ n then some (Char.ofNatAux n h) else none else none

/-- The text of UTF-8 bytes. -/
def decode? : List Nat → Option Text
  | [] => some []
  | a :: rest =>
    if a < 0x80 then (decode? rest).map (Char.ofNat a :: ·)
    else if 0xC0 ≤ a && a < 0xE0 then
      match rest with
      | b :: rest =>
        if isTail b then do
          let c ← codePoint? 0x80 ((a - 0xC0) * 64 + (b - 0x80))
          let more ← decode? rest
          return c :: more
        else none
      | _ => none
    else if 0xE0 ≤ a && a < 0xF0 then
      match rest with
      | b :: d :: rest =>
        if isTail b && isTail d then do
          let c ← codePoint? 0x800 ((a - 0xE0) * 4096 + (b - 0x80) * 64 + (d - 0x80))
          let more ← decode? rest
          return c :: more
        else none
      | _ => none
    else if 0xF0 ≤ a && a < 0xF8 then
      match rest with
      | b :: d :: e :: rest =>
        if isTail b && isTail d && isTail e then do
          let c ← codePoint? 0x10000
            ((a - 0xF0) * 262144 + (b - 0x80) * 4096 + (d - 0x80) * 64 + (e - 0x80))
          let more ← decode? rest
          return c :: more
        else none
      | _ => none
    else none

end CmdletShell.Text.Utf8
