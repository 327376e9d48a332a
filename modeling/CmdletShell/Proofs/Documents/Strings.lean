import CmdletShell.Json.Reader
import CmdletShell.Json.Writer
import Mathlib.Tactic.IntervalCases

/-!
# Strings in documents

A character inside a string is written as itself, after a backslash, or by number, and in each form
it is read as itself (`readText_writeChar`). So a string is read as it was written
(`readText_written`), whether the characters beyond ASCII are written as they are or by number.
-/

namespace CmdletShell.Proofs.Documents.Strings

open CmdletShell.Json CmdletShell.Text

/-! ### Characters by number -/

theorem hexValue?_hexDigit {n : Nat} (h : n < 16) : hexValue? (hexDigit n) = some n := by
  interval_cases n <;> rfl

/-- A number below `10000` is read from its four digits. -/
theorem unit?_hex {n : Nat} (h : n < 0x10000) (rest : Text) :
    unit? (hex 4 n ++ rest) = some (n, rest) := by
  have hdigit : ∀ m : Nat, hexValue? (hexDigit (m % 16)) = some (m % 16) := fun m =>
    hexValue?_hexDigit (Nat.mod_lt m (by decide))
  simp only [hex, List.nil_append, List.cons_append, unit?, hdigit, bind, Option.bind, pure,
    Option.some.injEq, Prod.mk.injEq, and_true]
  omega

/-- No character has a number between the surrogates' first and last. -/
theorem toNat_not_surrogate (c : Char) : c.toNat < 0xD800 ∨ 0xE000 ≤ c.toNat := by
  have h := c.valid
  unfold UInt32.isValidChar Nat.isValidChar at h
  change c.val.toNat < 0xD800 ∨ 0xE000 ≤ c.val.toNat
  omega

theorem toNat_lt (c : Char) : c.toNat < 0x110000 := by
  have h := c.valid
  unfold UInt32.isValidChar Nat.isValidChar at h
  change c.val.toNat < 0x110000
  omega

/-- A character up to `FFFF` is read from one unit. -/
theorem numbered?_unit {c : Char} (h : c.toNat < 0x10000) (rest : Text) :
    numbered? (hex 4 c.toNat ++ rest) = some (c, rest) := by
  have hc := toNat_not_surrogate c
  unfold numbered?
  simp only [unit?_hex h, bind, Option.bind]
  rw [if_neg (by simp; omega), if_neg (by simp; omega), Char.ofNat_toNat]
  rfl

/-- Two halves are read as one character. -/
theorem numbered?_halves {high low : Nat} (hhigh : 0xD800 ≤ high ∧ high < 0xDC00)
    (hlow : 0xDC00 ≤ low ∧ low < 0xE000) (rest : Text) :
    numbered? (hex 4 high ++ (escapeUnit low ++ rest)) =
      some (Char.ofNat (0x10000 + (high - 0xD800) * 1024 + (low - 0xDC00)), rest) := by
  unfold numbered?
  simp only [unit?_hex (show high < 0x10000 by omega), bind, Option.bind]
  rw [if_pos (by simpa using hhigh)]
  simp only [escapeUnit, List.cons_append, List.nil_append,
    unit?_hex (show low < 0x10000 by omega)]
  rw [if_pos (by simpa using hlow)]
  rfl

/-- A character above `FFFF` is the one of its two halves. -/
theorem ofNat_halves {c : Char} (h : 0x10000 ≤ c.toNat) :
    Char.ofNat (0x10000 + (0xD800 + (c.toNat - 0x10000) / 1024 - 0xD800) * 1024 +
      (0xDC00 + (c.toNat - 0x10000) % 1024 - 0xDC00)) = c := by
  have hn : 0x10000 + (0xD800 + (c.toNat - 0x10000) / 1024 - 0xD800) * 1024 +
      (0xDC00 + (c.toNat - 0x10000) % 1024 - 0xDC00) = c.toNat := by omega
  rw [hn, Char.ofNat_toNat]

/-! ### Characters as they are written -/

/-- A character that stands for itself is read as it is. -/
theorem readText_plain {c : Char} (hq : c ≠ '"') (hb : c ≠ '\\') (hn : 32 ≤ c.toNat) (fuel : Nat)
    (rest : Text) : readText (fuel + 1) (c :: rest) =
      (readText fuel rest).map fun (text, rest) => (c :: text, rest) := by
  rw [readText.eq_def]
  dsimp only
  rw [if_neg hq, if_neg hb, if_neg (by omega)]

/-- A character that is written by number is read. -/
theorem readText_numbered {c : Char} {digits rest : Text} (h : numbered? digits = some (c, rest))
    (fuel : Nat) : readText (fuel + 1) ('\\' :: 'u' :: digits) =
      (readText fuel rest).map fun (text, rest) => (c :: text, rest) := by
  rw [readText.eq_def]
  dsimp only
  rw [if_neg (by decide), if_pos rfl]
  simp only [h]

/-- A character that is no control character, quote or backslash is written as it is or by
number. -/
theorem writeChar_plain (ascii : Bool) {c : Char} (hq : c ≠ '"') (hb : c ≠ '\\')
    (hn : 32 ≤ c.toNat) : writeChar ascii c =
      if ascii && 126 < c.toNat then
        if c.toNat < 0x10000 then escapeUnit c.toNat
        else escapeUnit (0xD800 + (c.toNat - 0x10000) / 1024) ++
          escapeUnit (0xDC00 + (c.toNat - 0x10000) % 1024)
      else [c] := by
  have hcontrol : ∀ d : Char, d.toNat < 32 → c ≠ d := by
    rintro d hd rfl
    omega
  unfold writeChar
  dsimp only
  rw [if_neg (by simp [hq, hb]), if_neg (hcontrol '\n' (by decide)),
    if_neg (hcontrol '\r' (by decide)), if_neg (hcontrol '\t' (by decide)), if_neg (by omega),
    if_neg (by omega), if_neg (by omega)]

/-- **A character is read as it was written.** -/
theorem readText_writeChar (ascii : Bool) (c : Char) (fuel : Nat) (rest : Text) :
    readText (fuel + 1) (writeChar ascii c ++ rest) =
      (readText fuel rest).map fun (text, rest) => (c :: text, rest) := by
  by_cases hn : c.toNat < 32
  · -- each control character has a form of its own
    have hc : c = Char.ofNat c.toNat := (Char.ofNat_toNat c).symm
    generalize c.toNat = n at hn hc
    subst hc
    interval_cases n <;> rfl
  by_cases hq : c = '"'
  · subst hq
    rfl
  by_cases hb : c = '\\'
  · subst hb
    rfl
  rw [writeChar_plain ascii hq hb (by omega)]
  split_ifs with hnumber hunit
  · exact readText_numbered (numbered?_unit hunit rest) fuel
  · have hc := toNat_lt c
    have hhigh : 0xD800 ≤ 0xD800 + (c.toNat - 0x10000) / 1024 ∧
        0xD800 + (c.toNat - 0x10000) / 1024 < 0xDC00 := by omega
    have hlow : 0xDC00 ≤ 0xDC00 + (c.toNat - 0x10000) % 1024 ∧
        0xDC00 + (c.toNat - 0x10000) % 1024 < 0xE000 := by omega
    have hhalves := numbered?_halves hhigh hlow rest
    rw [ofNat_halves (Nat.le_of_not_lt hunit)] at hhalves
    rw [List.append_assoc]
    exact readText_numbered hhalves fuel
  · exact readText_plain hq hb (by omega) fuel rest

/-- **A string is read as it was written**, up to its closing quote. -/
theorem readText_written (ascii : Bool) : ∀ (text : Text) {fuel : Nat}, text.length < fuel →
    ∀ rest : Text,
      readText fuel (text.flatMap (writeChar ascii) ++ '"' :: rest) = .ok (text, rest)
  | [], fuel + 1, _, rest => rfl
  | c :: text, fuel + 1, h, rest => by
    rw [List.flatMap_cons, List.append_assoc, readText_writeChar,
      readText_written ascii text (Nat.lt_of_succ_lt_succ h) rest]
    rfl

/-- What is written for a string is at least as long. -/
theorem length_le_written (ascii : Bool) (text : Text) :
    text.length ≤ (text.flatMap (writeChar ascii)).length := by
  have hchar : ∀ c, 1 ≤ (writeChar ascii c).length := by
    intro c
    unfold writeChar
    dsimp only
    split_ifs <;> simp [escapeUnit]
  induction text with
  | nil => rfl
  | cons c text ih =>
    have h := hchar c
    rw [List.flatMap_cons, List.length_append, List.length_cons]
    omega

end CmdletShell.Proofs.Documents.Strings
