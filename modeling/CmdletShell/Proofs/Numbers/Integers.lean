import CmdletShell.Proofs.Documents.Numerals
import CmdletShell.Proofs.Lines.Strip
import CmdletShell.Text.Numeral

/-!
# Whole numbers as text

A text denotes a whole number if it is a run of digits with single low lines between them, with a
sign or without, and white space around it (`Denotes`). The reader finds the number of every such
text and of no other (`readInteger?_eq_some`).

Each number is written as its numeral: its digits, of which a zero begins no others, after a minus
if the number is negative (`IsNumeral`, `isNumeral_writeInteger`).
-/

namespace CmdletShell.Proofs.Numbers.Integers

open CmdletShell.Text
open CmdletShell.Proofs.Documents.Numerals CmdletShell.Proofs.Lines.Strip
open CmdletShell.Proofs.Numbers.Decimals

/-- **Digits of any script**, with at most one low line between two of them. -/
inductive Grouped : Text → List Nat → Prop
  /-- The last digit. -/
  | last {c d} : digit? c = some d → Grouped [c] [d]
  /-- A digit before others. -/
  | next {c d text digits} : digit? c = some d → Grouped text digits →
      Grouped (c :: text) (d :: digits)
  /-- A digit and a low line before others. -/
  | apart {c d text digits} : digit? c = some d → Grouped text digits →
      Grouped (c :: '_' :: text) (d :: digits)

/-- Not more digits than may be read, and what they are worth. -/
inductive Unsigned : Text → Nat → Prop
  | intro {text digits} : Grouped text digits → digits.length ≤ digitLimit →
      Unsigned text (Nat.ofDigits 10 digits.reverse)

/-- Digits after a sign or without one. -/
inductive Signed : Text → Int → Prop
  /-- Without a sign. -/
  | plain {text} {n : Nat} : Unsigned text n → Signed text n
  /-- After a plus. -/
  | plus {text} {n : Nat} : Unsigned text n → Signed ('+' :: text) n
  /-- After a minus. -/
  | minus {text} {n : Nat} : Unsigned text n → Signed ('-' :: text) (-n)

/-- **The text means a whole number**: white space may stand around it. -/
inductive Denotes : Text → Int → Prop
  | intro {before text after n} : (∀ c ∈ before, isNumberBlank c = true) →
      (∀ c ∈ after, isNumberBlank c = true) → Signed text n →
      Denotes (before ++ (text ++ after)) n

/-- **The numeral of a number.** -/
inductive IsNumeral : Int → Text → Prop
  /-- The digits. -/
  | natural {text} {n : Nat} : IsWhole text → worth text = n → IsNumeral n text
  /-- The digits after a minus. -/
  | negative {text} {n : Nat} : IsWhole text → worth text = n → 0 < n →
      IsNumeral (-n) ('-' :: text)

variable {text : Text} {c : Char} {d n : Nat} {digits : List Nat} {k : Int}

/-! ### Digits -/

/-- A character that is no white space, no sign and no low line. -/
def isOrdinary (c : Char) : Bool := !isBlank c && c != '-' && c != '+' && c != '_'

theorem isOrdinary_table : ∀ first ∈ zeroDigits, ∀ i < 10,
    isOrdinary (Char.ofNat (first + i)) = true := by
  decide +kernel

theorem isOrdinary_of_digit? (h : digit? c = some d) : isOrdinary c = true := by
  obtain ⟨first, hfound, -⟩ := Option.map_eq_some_iff.mp h
  have hmem := List.mem_of_find?_eq_some hfound
  have hrange := List.find?_some hfound
  simp only [Bool.and_eq_true, decide_eq_true_eq] at hrange
  have hc := isOrdinary_table first hmem (c.toNat - first) (by omega)
  rwa [Nat.add_sub_cancel' hrange.1, Char.ofNat_toNat] at hc

/-- Grouped digits begin with a digit. -/
theorem Grouped.exists_cons (h : Grouped text digits) :
    ∃ c rest, text = c :: rest ∧ isOrdinary c = true := by
  cases h with
  | last hd | next hd | apart hd => exact ⟨_, _, rfl, isOrdinary_of_digit? hd⟩

/-- They end with one as well. -/
theorem Grouped.getLast? (h : Grouped text digits) :
    ∀ c ∈ text.getLast?, isOrdinary c = true := by
  induction h with
  | last hd =>
    rintro c ⟨⟩
    exact isOrdinary_of_digit? hd
  | next _ hrest ih | apart _ hrest ih =>
    obtain ⟨c, rest, rfl, -⟩ := hrest.exists_cons
    simpa [List.getLast?_cons_cons] using ih

theorem groupedDigits?_cons (hne : text ≠ []) (hline : text.head? ≠ some '_') :
    groupedDigits? (c :: text) =
      (digit? c).bind fun d => (groupedDigits? text).bind fun more => some (d :: more) := by
  rw [groupedDigits?.eq_def]
  split
  · next heq => cases heq
  · next heq => exact absurd (List.cons.inj heq).2 hne
  · next heq => exact absurd (congrArg List.head? (List.cons.inj heq).2) hline
  · next heq =>
    cases heq
    rfl

/-- **The reader of digits** finds the digits of every text that has them. -/
theorem groupedDigits?_eq_some : groupedDigits? text = some digits ↔ Grouped text digits := by
  constructor
  · intro h
    fun_induction groupedDigits? text generalizing digits with
    | case1 => cases h
    | case2 c =>
      obtain ⟨d, hd, rfl⟩ := Option.map_eq_some_iff.mp h
      exact .last hd
    | case3 c text ih =>
      obtain ⟨d, hd, h⟩ := Option.bind_eq_some_iff.mp h
      obtain ⟨more, hmore, h⟩ := Option.bind_eq_some_iff.mp h
      cases h
      exact .apart hd (ih hmore)
    | case4 c text _ _ ih =>
      obtain ⟨d, hd, h⟩ := Option.bind_eq_some_iff.mp h
      obtain ⟨more, hmore, h⟩ := Option.bind_eq_some_iff.mp h
      cases h
      exact .next hd (ih hmore)
  · intro h
    induction h with
    | last hd => exact congrArg (Option.map _) hd
    | next hd hrest ih =>
      obtain ⟨c, rest, rfl, hc⟩ := hrest.exists_cons
      have hline : (c :: rest).head? ≠ some '_' := by
        rintro ⟨⟩
        cases hc
      rw [groupedDigits?_cons (List.cons_ne_nil _ _) hline, hd, ih]
      rfl
    | apart hd hrest ih =>
      rw [groupedDigits?, hd, ih]
      rfl

/-! ### Numbers -/

theorem readNatural?_eq_some : readNatural? text = some n ↔ Unsigned text n := by
  constructor
  · intro h
    obtain ⟨digits, hdigits, h⟩ := Option.bind_eq_some_iff.mp h
    split_ifs at h with hlimit
    rw [← Option.some.inj h, digitsValue_eq]
    exact .intro (groupedDigits?_eq_some.mp hdigits) hlimit
  · rintro ⟨hdigits, hlimit⟩
    rw [readNatural?, groupedDigits?_eq_some.mpr hdigits, ← digitsValue_eq]
    exact if_pos hlimit

theorem Unsigned.exists_cons (h : Unsigned text n) :
    ∃ c rest, text = c :: rest ∧ isOrdinary c = true := by
  obtain ⟨hdigits, -⟩ := h
  exact hdigits.exists_cons

theorem isNumberBlank_of_isOrdinary (h : isOrdinary c = true) : isNumberBlank c = false := by
  simp only [isOrdinary, Bool.and_eq_true, Bool.not_eq_true'] at h
  rw [isNumberBlank, h.1.1.1, Bool.false_and]

/-- No white space stands at the ends of a number. -/
theorem Signed.hasEnds (h : Signed text k) : text ≠ [] ∧ HasEnds isNumberBlank text := by
  have hends : ∀ {text : Text} {n : Nat}, Unsigned text n → text ≠ [] ∧
      HasEnds isNumberBlank text := by
    rintro text n ⟨hdigits, -⟩
    obtain ⟨c, rest, rfl, hc⟩ := hdigits.exists_cons
    refine ⟨List.cons_ne_nil c rest, ?_, fun d hd => ?_⟩
    · rintro d ⟨⟩
      exact isNumberBlank_of_isOrdinary hc
    · exact isNumberBlank_of_isOrdinary (hdigits.getLast? d hd)
  have hsign : ∀ {text : Text} {n : Nat} {sign : Char}, Unsigned text n →
      isNumberBlank sign = false → sign :: text ≠ [] ∧ HasEnds isNumberBlank (sign :: text) := by
    intro text n sign hu hs
    obtain ⟨hne, -, hlast⟩ := hends hu
    refine ⟨List.cons_ne_nil sign text, ?_, fun d hd => hlast d ?_⟩
    · rintro d ⟨⟩
      exact hs
    · obtain ⟨c, rest, rfl⟩ := List.exists_cons_of_ne_nil hne
      exact hd
  cases h with
  | plain hu => exact hends hu
  | plus hu | minus hu => exact hsign hu (by decide)

/-- What is read of a text without white space around it. -/
def readSigned? : Text → Option Int
  | '-' :: rest => (readNatural? rest).map fun n : Nat => -(n : Int)
  | '+' :: rest => (readNatural? rest).map Int.ofNat
  | rest => (readNatural? rest).map Int.ofNat

theorem readInteger?_eq (text : Text) :
    readInteger? text = readSigned? (trim isNumberBlank text) := by
  unfold readInteger?
  generalize trim isNumberBlank text = core
  fun_cases readSigned? core with
  | case1 rest =>
    split
    · next heq =>
      cases heq
      cases readNatural? rest <;> rfl
    · next heq => cases heq
    · next hminus _ => exact absurd rfl (hminus rest)
  | case2 rest => rfl
  | case3 core hminus hplus =>
    split
    · exact absurd rfl (hminus _)
    · exact absurd rfl (hplus _)
    · rfl

theorem readSigned?_eq_some : readSigned? text = some k ↔ Signed text k := by
  constructor
  · intro h
    unfold readSigned? at h
    split at h <;> obtain ⟨n, hn, rfl⟩ := Option.map_eq_some_iff.mp h
    · exact .minus (readNatural?_eq_some.mp hn)
    · exact .plus (readNatural?_eq_some.mp hn)
    · exact .plain (readNatural?_eq_some.mp hn)
  · intro h
    cases h with
    | plain hu =>
      obtain ⟨c, rest, rfl, hc⟩ := hu.exists_cons
      unfold readSigned?
      split
      · next heq =>
        cases heq
        cases hc
      · next heq =>
        cases heq
        cases hc
      · rw [readNatural?_eq_some.mpr hu]
        rfl
    | plus hu =>
      rw [readSigned?, readNatural?_eq_some.mpr hu]
      rfl
    | minus hu =>
      rw [readSigned?, readNatural?_eq_some.mpr hu]
      rfl

/-- **The reader finds the number that a text denotes**, and none if it denotes none. -/
theorem readInteger?_eq_some : readInteger? text = some k ↔ Denotes text k := by
  rw [readInteger?_eq, readSigned?_eq_some]
  constructor
  · intro h
    obtain ⟨before, after, htext, hb, ha⟩ := exists_trim isNumberBlank text
    rw [htext]
    exact .intro hb ha h
  · rintro ⟨hb, ha, h⟩
    obtain ⟨hne, hends⟩ := h.hasEnds
    rwa [trim_around hb ha hne hends]

theorem readInteger?_eq_none : readInteger? text = none ↔ ∀ k, ¬ Denotes text k := by
  rw [Option.eq_none_iff_forall_ne_some]
  exact forall_congr' fun k => not_congr readInteger?_eq_some

/-- Digits of two scripts, a low line, a sign and white space. -/
example : readInteger? "\u2003-1_٢07\n" = some (-1207) := by decide

/-! ### Numerals -/

/-- **A number is written as its numeral.** -/
theorem isNumeral_writeInteger (k : Int) : IsNumeral k (writeInteger k) := by
  cases k with
  | ofNat n => exact .natural (isWhole_writeNatural n) (worth_writeNatural n)
  | negSucc n =>
    exact .negative (isWhole_writeNatural (n + 1)) (worth_writeNatural (n + 1)) (Nat.succ_pos n)

end CmdletShell.Proofs.Numbers.Integers
