import CmdletShell.Text.Utf8
import Mathlib.Data.List.Basic

/-!
# Bytes are read as they were written

The bytes of a character begin with one that tells how many follow it, and the character is read
back from their low bits (`decode?_encodeChar`). So the bytes of a text are those of no other text
(`decode?_encode`).
-/

namespace CmdletShell.Proofs.Texts.Utf8

open CmdletShell.Text.Utf8

theorem isTail_low (n : Nat) : isTail (0x80 + n % 64) = true := by
  unfold isTail
  simp only [Bool.and_eq_true, decide_eq_true_eq]
  omega

theorem codePoint?_toNat {c : Char} {least n : Nat} (hn : n = c.toNat) (hl : least ≤ c.toNat) :
    codePoint? least n = some c := by
  subst hn
  have hv : c.toNat.isValidChar := c.valid
  unfold codePoint?
  rw [dif_pos hv, if_pos hl]
  exact congrArg some (Char.ext rfl)

/-! ### One character -/

section
variable {c : Char} {a b d e : Nat} (bytes : List Nat)

theorem decode?_one (ha : a < 0x80) (hc : Char.ofNat a = c) :
    decode? (a :: bytes) = (decode? bytes).map (c :: ·) := by
  rw [decode?.eq_def]
  dsimp only
  rw [if_pos ha, hc]

theorem decode?_two (ha : 0xC0 ≤ a ∧ a < 0xE0) (hb : isTail b = true)
    (hc : codePoint? 0x80 ((a - 0xC0) * 64 + (b - 0x80)) = some c) :
    decode? (a :: b :: bytes) = (decode? bytes).map (c :: ·) := by
  rw [decode?.eq_def]
  dsimp only
  rw [if_neg (by omega), if_pos (by simpa using ha), hb, hc]
  cases decode? bytes <;> rfl

theorem decode?_three (ha : 0xE0 ≤ a ∧ a < 0xF0) (hb : isTail b = true) (hd : isTail d = true)
    (hc : codePoint? 0x800 ((a - 0xE0) * 4096 + (b - 0x80) * 64 + (d - 0x80)) = some c) :
    decode? (a :: b :: d :: bytes) = (decode? bytes).map (c :: ·) := by
  rw [decode?.eq_def]
  dsimp only
  rw [if_neg (by omega), if_neg (by simp; omega), if_pos (by simpa using ha), hb, hd, hc]
  cases decode? bytes <;> rfl

theorem decode?_four (ha : 0xF0 ≤ a ∧ a < 0xF8) (hb : isTail b = true) (hd : isTail d = true)
    (he : isTail e = true) (hc : codePoint? 0x10000
      ((a - 0xF0) * 262144 + (b - 0x80) * 4096 + (d - 0x80) * 64 + (e - 0x80)) = some c) :
    decode? (a :: b :: d :: e :: bytes) = (decode? bytes).map (c :: ·) := by
  rw [decode?.eq_def]
  dsimp only
  rw [if_neg (by omega), if_neg (by simp; omega), if_neg (by simp; omega),
    if_pos (by simpa using ha), hb, hd, he, hc]
  cases decode? bytes <;> rfl

end

/-- **A character is read as it was written.** -/
theorem decode?_encodeChar (c : Char) (bytes : List Nat) :
    decode? (encodeChar c ++ bytes) = (decode? bytes).map (c :: ·) := by
  have hmax : c.toNat < 0x110000 := by
    have hv : c.toNat.isValidChar := c.valid
    unfold Nat.isValidChar at hv
    omega
  unfold encodeChar
  dsimp only
  split_ifs with h1 h2 h3
  · exact decode?_one bytes h1 (Char.ofNat_toNat c)
  · exact decode?_two bytes (by omega) (isTail_low _) (codePoint?_toNat (by omega) (by omega))
  · exact decode?_three bytes (by omega) (isTail_low _) (isTail_low _)
      (codePoint?_toNat (by omega) (by omega))
  · exact decode?_four bytes (by omega) (isTail_low _) (isTail_low _) (isTail_low _)
      (codePoint?_toNat (by omega) (by omega))

/-- **A text is read as it was written.** -/
theorem decode?_encode (text : Text) : decode? (encode text) = some text := by
  induction text with
  | nil => rfl
  | cons c text ih =>
    have hcons : encode (c :: text) = encodeChar c ++ encode text := List.flatMap_cons
    rw [hcons, decode?_encodeChar, ih]
    rfl

end CmdletShell.Proofs.Texts.Utf8
