import CmdletShell.Json.Reader
import CmdletShell.Json.Writer
import CmdletShell.Proofs.Numbers.Decimals
import Mathlib.Data.List.TakeWhile
import Mathlib.Data.Nat.Digits.Defs

/-!
# Numbers in documents

What is written for a number is read as it, if the text after it lets the number end (`Clear`):
`readWord_writeInteger` for whole numbers and `readWord_writeFloat` for floating point ones. A whole
number may have as many digits as may be read, and no others are read (`readNumber_ok`).
-/

namespace CmdletShell.Proofs.Documents.Numerals

open CmdletShell.Json CmdletShell.Text
open CmdletShell.Proofs.Numbers.Rounding CmdletShell.Proofs.Numbers.Decimals

/-- What may come after a value: nothing, white space, a comma, or a closing bracket. -/
def Clear (rest : Text) : Prop :=
  ∀ c ∈ rest.head?, isGap c = true ∨ c = ',' ∨ c = ']' ∨ c = '\x7d'

section
variable {digits rest : Text}

/-- No digit comes next. -/
def NoDigit (rest : Text) : Prop := ∀ c ∈ rest.head?, c.isDigit = false

theorem Clear.noDigit (h : Clear rest) : NoDigit rest := by
  intro c hc
  rcases h c hc with h | rfl | rfl | rfl
  · revert h
    unfold isGap
    simp only [Bool.or_eq_true, decide_eq_true_eq]
    rintro (((rfl | rfl) | rfl) | rfl) <;> rfl
  · rfl
  · rfl
  · rfl

theorem takeDigits_append (hd : Digits digits) (hr : NoDigit rest) :
    takeDigits (digits ++ rest) = (digits.map (·.toNat - 48), rest) := by
  unfold takeDigits
  rw [List.takeWhile_append_of_pos hd, List.dropWhile_append_of_pos hd]
  cases rest with
  | nil => simp
  | cons c rest => simp [hr c rfl]

theorem digitsValue_map (digits : Text) (value : Nat) :
    digitsValue value (digits.map (·.toNat - 48)) = Nat.ofDigitChars 10 digits value := by
  unfold digitsValue Nat.ofDigitChars
  rw [List.foldl_map]
  rfl

/-- What may come after a value is no point and no mark of an exponent. -/
theorem Clear.not_marks (h : Clear rest) :
    '.' ∉ rest.head? ∧ 'e' ∉ rest.head? ∧ 'E' ∉ rest.head? := by
  refine ⟨fun hc => ?_, fun hc => ?_, fun hc => ?_⟩ <;>
    rcases h _ hc with h | h | h | h <;> revert h <;> decide

/-! ### The parts of a number -/

/-- The digits of a whole part are all read, and a zero that is alone too. -/
theorem takeWhole_append {whole : Text} (hw : IsWhole whole) (hr : NoDigit rest) :
    takeWhole (whole ++ rest) = (whole.map (·.toNat - 48), rest) := by
  cases whole with
  | nil => exact absurd rfl hw.ne_nil
  | cons c whole =>
    by_cases hc : c = '0'
    · subst hc
      obtain ⟨-, rfl⟩ := List.cons.inj (hw.zero rfl)
      rfl
    · rw [← takeDigits_append hw.digits hr]
      unfold takeWhole
      split
      · next heq => exact absurd (List.cons.inj heq).1 hc
      · rfl

theorem takePlaces_of_not_point (h : '.' ∉ rest.head?) : takePlaces rest = ([], rest) := by
  unfold takePlaces
  split
  · exact absurd rfl h
  · rfl

theorem takePlaces_point {places : Text} (hp : Digits places) (hne : places ≠ [])
    (hr : NoDigit rest) :
    takePlaces ('.' :: (places ++ rest)) = (places.map (·.toNat - 48), rest) := by
  cases places with
  | nil => exact absurd rfl hne
  | cons c places =>
    unfold takePlaces
    simp only [takeDigits_append hp hr, List.map_cons]

theorem takeExponent_clear (h : Clear rest) : takeExponent rest = none := by
  obtain ⟨-, he, hE⟩ := h.not_marks
  unfold takeExponent
  split
  · exact absurd rfl he
  · exact absurd rfl hE
  · rfl

theorem takeExponent_signed {negative : Bool} (hd : Digits digits) (hne : digits ≠ [])
    (hr : NoDigit rest) :
    takeExponent ('e' :: (if negative then '-' else '+') :: (digits ++ rest)) =
      some ((if negative then -(worth digits : Int) else worth digits), rest) := by
  have hvalue : digitsValue 0 (digits.map (·.toNat - 48)) = worth digits := digitsValue_map digits 0
  have htake := takeDigits_append hd hr
  cases digits with
  | nil => exact absurd rfl hne
  | cons d digits =>
    rw [List.map_cons] at htake hvalue
    cases negative <;>
      simp only [takeExponent, takeSigned, Bool.false_eq_true, if_false, if_true, htake, hvalue]

/-! ### Whole numbers and decimals -/

/-- **A whole number is read**, if it has no more digits than may be read. -/
theorem readNumber_whole {negative : Bool} {whole : Text} (hw : IsWhole whole)
    (hl : whole.length ≤ digitLimit) (hr : Clear rest) :
    readNumber negative (whole ++ rest) =
      .ok (.int (if negative then -(worth whole : Int) else worth whole), rest) := by
  have hmap : (whole.map (·.toNat - 48)).isEmpty = false := by simpa using hw.ne_nil
  unfold readNumber
  rw [takeWhole_append hw hr.noDigit]
  dsimp only
  rw [hmap, if_neg Bool.false_ne_true, takePlaces_of_not_point hr.not_marks.1]
  dsimp only
  rw [takeExponent_clear hr]
  dsimp only
  rw [List.length_map, if_neg (by omega), digitsValue_map]
  rfl

section Decimal
variable {decimal : Decimal}

theorem noDigit_cons {c : Char} (h : c.isDigit = false) (text : Text) : NoDigit (c :: text) := by
  rintro d ⟨⟩
  exact h

/-- The exponent, or what comes after the number, begins with no digit and no point. -/
theorem powerText_stops (decimal : Decimal) (hr : Clear rest) :
    NoDigit (decimal.powerText ++ rest) ∧ '.' ∉ (decimal.powerText ++ rest).head? := by
  unfold Decimal.powerText
  split
  · exact ⟨hr.noDigit, hr.not_marks.1⟩
  · exact ⟨noDigit_cons rfl _, by simp⟩

theorem takePlaces_decimal (hp : decimal.Proper) (hr : Clear rest) :
    takePlaces (decimal.placesText ++ (decimal.powerText ++ rest)) =
      (decimal.places.map (·.toNat - 48), decimal.powerText ++ rest) := by
  obtain ⟨hdigit, hpoint⟩ := powerText_stops decimal hr
  unfold Decimal.placesText
  split_ifs with he
  · rw [List.isEmpty_iff.mp he]
    exact takePlaces_of_not_point hpoint
  · exact takePlaces_point hp.places (by simpa using he) hdigit

theorem placesText_noDigit (decimal : Decimal) (hr : Clear rest) :
    NoDigit (decimal.placesText ++ (decimal.powerText ++ rest)) := by
  unfold Decimal.placesText
  split_ifs
  · exact (powerText_stops decimal hr).1
  · exact noDigit_cons rfl _

theorem takeExponent_decimal (hp : decimal.Proper) (hr : Clear rest) :
    takeExponent (decimal.powerText ++ rest) =
      decimal.power.map fun _ => (decimal.powerValue, rest) := by
  unfold Decimal.powerText Decimal.powerValue
  cases hpower : decimal.power with
  | none => exact takeExponent_clear hr
  | some power =>
    obtain ⟨negative, digits⟩ := power
    obtain ⟨hd, hne⟩ := hp.power negative digits hpower
    exact takeExponent_signed hd hne hr.noDigit

/-- **A decimal is read** as the number nearest to what it means. -/
theorem readNumber_decimal {negative : Bool} (hp : decimal.Proper) (hr : Clear rest) :
    readNumber negative (decimal.text ++ rest) =
      .ok (.float (Binary64.ofDecimal negative decimal.digits decimal.place), rest) := by
  have htext : decimal.text ++ rest =
      decimal.whole ++ (decimal.placesText ++ (decimal.powerText ++ rest)) := by
    simp [Decimal.text]
  have hmap : (decimal.whole.map (·.toNat - 48)).isEmpty = false := by simpa using hp.whole.ne_nil
  have hdigits : digitsValue 0 (decimal.whole.map (·.toNat - 48) ++
      decimal.places.map (·.toNat - 48)) = decimal.digits := by
    rw [← List.map_append]
    exact digitsValue_map (decimal.whole ++ decimal.places) 0
  have hlength : (decimal.places.map (·.toNat - 48)).length = decimal.places.length :=
    List.length_map _
  unfold readNumber
  rw [htext, takeWhole_append hp.whole (placesText_noDigit decimal hr)]
  dsimp only
  rw [hmap, if_neg Bool.false_ne_true, takePlaces_decimal hp hr]
  dsimp only
  rw [takeExponent_decimal hp hr, hdigits, hlength]
  unfold Decimal.place
  cases hpower : decimal.power with
  | some power => cases decimal.places <;> rfl
  | none =>
    have hne : decimal.places ≠ [] := hp.marked.resolve_right (by simp [hpower])
    have hzero : decimal.powerValue = 0 := by simp [Decimal.powerValue, hpower]
    rw [hzero, zero_sub]
    unfold Decimal.powerText
    rw [hpower]
    cases hplaces : decimal.places with
    | nil => exact absurd hplaces hne
    | cons c places => rfl

end Decimal

/-! ### What is written for a number -/

/-- A digit begins no word. -/
theorem beq_digit {c d : Char} (hc : c.isDigit = true) (hd : d.isDigit = false) :
    (d == c) = false := by
  rw [beq_eq_false_iff_ne]
  rintro rfl
  rw [hc] at hd
  cases hd

/-- A text that begins with a digit is that of a number. -/
theorem readWord_digit {c : Char} (hc : c.isDigit = true) (text : Text) :
    readWord (c :: text) = readNumber false (c :: text) := by
  have hm : c ≠ '-' := by
    rintro rfl
    cases hc
  unfold readWord
  simp [List.find?, List.isPrefixOf, beq_digit hc, hm]

/-- A minus sign before a digit is that of a number. -/
theorem readWord_minus {c : Char} (hc : c.isDigit = true) (text : Text) :
    readWord ('-' :: c :: text) = readNumber true (c :: text) := by
  unfold readWord
  simp [List.find?, List.isPrefixOf, beq_digit hc]

/-- The number of digits of a whole number that may be read. -/
def Readable (n : Int) : Prop := n.natAbs < 10 ^ digitLimit

theorem readable_of_lt {n : Int} (h : n.natAbs < 10) : Readable n :=
  h.trans_le (Nat.le_self_pow (by decide) 10)

theorem isWhole_writeNatural (n : Nat) : IsWhole (writeNatural n) := by
  refine ⟨digits_writeNatural n, Nat.toDigits_ne_nil, fun h => ?_⟩
  by_cases hn : n = 0
  · rw [hn]
    rfl
  · exact absurd h (head?_writeNatural (Nat.pos_of_ne_zero hn))

theorem length_writeNatural {n : Nat} (h : n < 10 ^ digitLimit) :
    (writeNatural n).length ≤ digitLimit :=
  (Nat.length_toDigits_le_iff (by norm_num) (by decide)).mpr h

/-- The text of a number begins with a digit. -/
theorem IsWhole.cons {whole : Text} (h : IsWhole whole) :
    ∃ c more, whole = c :: more ∧ c.isDigit = true := by
  obtain ⟨c, more, hcons⟩ := List.exists_cons_of_ne_nil h.ne_nil
  exact ⟨c, more, hcons, h.digits c (by simp [hcons])⟩

theorem Decimal.Proper.cons {decimal : Decimal} (h : decimal.Proper) :
    ∃ c more, decimal.text = c :: more ∧ c.isDigit = true := by
  obtain ⟨c, more, hcons, hc⟩ := IsWhole.cons h.whole
  exact ⟨c, more ++ (decimal.placesText ++ decimal.powerText), by simp [Decimal.text, hcons], hc⟩

/-- **A whole number is read as it was written.** -/
theorem readWord_writeInteger {n : Int} (hn : Readable n) (hr : Clear rest) :
    readWord (writeInteger n ++ rest) = .ok (.int n, rest) := by
  unfold Readable at hn
  have hread : ∀ (m : Nat) (negative : Bool), m < 10 ^ digitLimit →
      readNumber negative (writeNatural m ++ rest) =
        .ok (.int (if negative then -(m : Int) else m), rest) := by
    intro m negative hm
    rw [readNumber_whole (isWhole_writeNatural m) (length_writeNatural hm) hr, worth_writeNatural]
  cases n with
  | ofNat m =>
    obtain ⟨c, more, hcons, hc⟩ := IsWhole.cons (isWhole_writeNatural m)
    have h := hread m false hn
    unfold writeInteger
    dsimp only
    rw [hcons, List.cons_append] at h ⊢
    rw [readWord_digit hc, h]
    rfl
  | negSucc m =>
    obtain ⟨c, more, hcons, hc⟩ := IsWhole.cons (isWhole_writeNatural (m + 1))
    have h := hread (m + 1) true hn
    unfold writeInteger
    dsimp only
    rw [hcons, List.cons_append] at h
    rw [hcons, List.cons_append, List.cons_append, readWord_minus hc, h]
    rfl

/-- **A floating point number is read as it was written.** -/
theorem readWord_writeFloat {x : Binary64} (hx : IsCanonical x) (hr : Clear rest) :
    readWord (writeFloat x ++ rest) = .ok (.float x, rest) := by
  cases x with
  | infinite negative => cases negative <;> rfl
  | notANumber => rfl
  | finite negative mantissa exponent =>
    obtain ⟨decimal, hp, htext, hvalue⟩ := write_finite hx negative
    have h := @readNumber_decimal rest decimal negative hp hr
    obtain ⟨c, more, hcons, hc⟩ := Decimal.Proper.cons hp
    rw [hvalue, hcons, List.cons_append] at h
    unfold writeFloat
    dsimp only
    rw [htext, hcons]
    cases negative with
    | false =>
      rw [if_neg Bool.false_ne_true, List.cons_append, readWord_digit hc, h]
    | true =>
      rw [if_pos rfl, List.cons_append, List.cons_append, readWord_minus hc, h]

/-! ### What numbers are read -/

theorem mem_takeDigits {text : Text} {d : Nat} (h : d ∈ (takeDigits text).1) : d < 10 := by
  obtain ⟨c, hc, rfl⟩ := List.mem_map.mp h
  have hdigit : c.isDigit = true := List.mem_takeWhile_imp hc
  have hle : c.val ≤ '9'.val := of_decide_eq_true (Bool.and_eq_true_iff.mp hdigit).2
  have hnat : c.toNat ≤ 57 := hle
  omega

theorem mem_takeWhole {text : Text} {d : Nat} (h : d ∈ (takeWhole text).1) : d < 10 := by
  unfold takeWhole at h
  split at h
  · rw [List.mem_singleton.mp h]
    norm_num
  · exact mem_takeDigits h

theorem digitsValue_eq (digits : List Nat) :
    digitsValue 0 digits = Nat.ofDigits 10 digits.reverse := by
  rw [Nat.ofDigits_eq_foldr, List.foldr_reverse]
  simp [digitsValue, add_comm]

theorem digitsValue_lt {digits : List Nat} (h : ∀ d ∈ digits, d < 10) :
    digitsValue 0 digits < 10 ^ digits.length := by
  rw [digitsValue_eq, ← List.length_reverse]
  exact Nat.ofDigits_lt_base_pow_length (by norm_num) fun d hd => h d (List.mem_reverse.mp hd)

/-- **The numbers that are read** are whole ones that may be read and canonical others. -/
theorem readNumber_ok {negative : Bool} {text : Text} {value : Value}
    (h : readNumber negative text = .ok (value, rest)) :
    (∃ n, value = .int n ∧ Readable n) ∨ ∃ x, value = .float x ∧ IsCanonical x := by
  unfold readNumber at h
  dsimp only at h
  by_cases hempty : (takeWhole text).1.isEmpty
  · rw [if_pos hempty] at h
    cases h
  rw [if_neg hempty] at h
  split at h
  · by_cases hlimit : digitLimit < (takeWhole text).1.length
    · rw [if_pos hlimit] at h
      cases h
    rw [if_neg hlimit] at h
    cases h
    refine Or.inl ⟨_, rfl, ?_⟩
    have hlt : digitsValue 0 (takeWhole text).1 < 10 ^ (takeWhole text).1.length :=
      digitsValue_lt fun d hd => mem_takeWhole hd
    have hpow := Nat.pow_le_pow_right (n := 10) (by norm_num) (Nat.le_of_not_lt hlimit)
    unfold Readable
    cases negative <;> simpa using hlt.trans_le hpow
  · cases h
    exact Or.inr ⟨_, rfl, isCanonical_ofDecimal _⟩
  · cases h
    exact Or.inr ⟨_, rfl, isCanonical_ofDecimal _⟩

end

end CmdletShell.Proofs.Documents.Numerals
