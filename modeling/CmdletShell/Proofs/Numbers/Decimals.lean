import CmdletShell.Proofs.Numbers.Shortest

/-!
# The text of a number

A decimal text has a whole part, places after a point, and an exponent, of which the last two may
lack (`Decimal`). `write` puts the shortest digits into such a text, positional or with an exponent,
and whatever it does, the text means what the digits mean (`means_layout`). So the text of a
number is read as the number (`write_finite`).
-/

namespace CmdletShell.Proofs.Numbers.Decimals

open CmdletShell.Binary64 CmdletShell.Text
open CmdletShell.Proofs.Numbers.Rounding CmdletShell.Proofs.Numbers.Shortest

/-- All characters are digits. -/
def Digits (text : Text) : Prop := ∀ c ∈ text, c.isDigit = true

/-- What a run of digits is worth. -/
def worth (text : Text) : Nat := Nat.ofDigitChars 10 text 0

theorem digits_append {first second : Text} (h : Digits first) (h' : Digits second) :
    Digits (first ++ second) := by
  intro c hc
  rcases List.mem_append.mp hc with hc | hc
  · exact h c hc
  · exact h' c hc

theorem digits_zeros (count : Nat) : Digits (List.replicate count '0') := by
  intro c hc
  rw [List.eq_of_mem_replicate hc]
  rfl

theorem digits_writeNatural (n : Nat) : Digits (writeNatural n) :=
  fun _ hc => Nat.isDigit_of_mem_toDigits (by norm_num) (by norm_num) hc

theorem worth_writeNatural (n : Nat) : worth (writeNatural n) = n :=
  Nat.ofDigitChars_ten_toDigits

theorem ofDigitChars_append (first second : Text) (start : Nat) :
    Nat.ofDigitChars 10 (first ++ second) start =
      Nat.ofDigitChars 10 second (Nat.ofDigitChars 10 first start) := by
  unfold Nat.ofDigitChars
  exact List.foldl_append

/-- Zeros at the end shift what stands before them. -/
theorem ofDigitChars_zeros (count start : Nat) :
    Nat.ofDigitChars 10 (List.replicate count '0') start = start * 10 ^ count := by
  induction count generalizing start with
  | zero => simp [Nat.ofDigitChars]
  | succ count ih =>
    rw [List.replicate_succ, Nat.ofDigitChars_cons, ih, pow_succ]
    norm_num
    ring

theorem worth_zeros_append (count : Nat) (digits : Text) :
    worth (List.replicate count '0' ++ digits) = worth digits := by
  unfold worth
  rw [ofDigitChars_append, ofDigitChars_zeros, zero_mul]

theorem worth_append_zeros (digits : Text) (count : Nat) :
    worth (digits ++ List.replicate count '0') = worth digits * 10 ^ count := by
  unfold worth
  rw [ofDigitChars_append, ofDigitChars_zeros]

/-- The digits of a number do not begin with a zero, unless it is zero. -/
theorem head?_writeNatural {n : Nat} (hn : 0 < n) : (writeNatural n).head? ≠ some '0' := by
  induction n using Nat.strongRecOn with
  | ind n ih =>
    unfold writeNatural at ih ⊢
    by_cases h : n < 10
    · rw [Nat.toDigits_of_lt_base h]
      have hdigit : ∀ m < 10, 0 < m → Nat.digitChar m ≠ '0' := by decide
      simpa using hdigit n h hn
    · rw [Nat.toDigits_of_base_le (by norm_num) (not_lt.mp h),
        List.head?_append_of_ne_nil _ Nat.toDigits_ne_nil]
      exact ih (n / 10) (by omega) (by omega)

/-! ### Decimal texts -/

/-- Digits of a whole number: a zero begins no other digits. -/
structure IsWhole (whole : Text) : Prop where
  digits : Digits whole
  ne_nil : whole ≠ []
  zero : whole.head? = some '0' → whole = ['0']

/-- A decimal text without sign: the whole part, the places after the point, and whether the
exponent is negative, with its digits. -/
structure Decimal where
  whole : Text
  places : Text := []
  power : Option (Bool × Text) := none

namespace Decimal

/-- The parts are written as they have to be, and there is a point or an exponent. -/
structure Proper (decimal : Decimal) : Prop where
  whole : IsWhole decimal.whole
  places : Digits decimal.places
  power : ∀ negative digits, decimal.power = some (negative, digits) → Digits digits ∧ digits ≠ []
  /-- It is no whole number. -/
  marked : decimal.places ≠ [] ∨ decimal.power ≠ none

/-- The text of the places. -/
def placesText (decimal : Decimal) : Text :=
  if decimal.places.isEmpty then [] else '.' :: decimal.places

/-- The text of the exponent. -/
def powerText (decimal : Decimal) : Text :=
  match decimal.power with
  | none => []
  | some (negative, digits) => 'e' :: (if negative then '-' else '+') :: digits

/-- The text. -/
def text (decimal : Decimal) : Text :=
  decimal.whole ++ (decimal.placesText ++ decimal.powerText)

/-- The digits as a whole number. -/
def digits (decimal : Decimal) : Nat := worth (decimal.whole ++ decimal.places)

/-- The exponent. -/
def powerValue (decimal : Decimal) : Int :=
  match decimal.power with
  | none => 0
  | some (negative, digits) => if negative then -worth digits else worth digits

/-- The power of ten that the last digit counts. -/
def place (decimal : Decimal) : Int := decimal.powerValue - decimal.places.length

end Decimal

/-- A text is that of a decimal with this value. -/
def Means (text : Text) (value : ℚ) : Prop :=
  ∃ decimal : Decimal, text = decimal.text ∧ decimal.Proper ∧
    (decimal.digits : ℚ) * 10 ^ decimal.place = value

/-- The digits of an exponent, of which there are two at least. -/
theorem writeExponent_eq (e : Int) : ∃ digits, Digits digits ∧ digits ≠ [] ∧
    writeExponent e = 'e' :: (if decide (e < 0) = true then '-' else '+') :: digits ∧
    (if decide (e < 0) = true then -(worth digits : Int) else worth digits) = e := by
  have hworth : worth ('0' :: writeNatural e.natAbs) = e.natAbs := by
    have h := worth_zeros_append 1 (writeNatural e.natAbs)
    rw [worth_writeNatural] at h
    exact h
  have hd := digits_writeNatural e.natAbs
  refine ⟨if (writeNatural e.natAbs).length < 2 then '0' :: writeNatural e.natAbs
    else writeNatural e.natAbs, ?_, ?_, ?_, ?_⟩
  · split_ifs
    · exact digits_append (digits_zeros 1) hd
    · exact hd
  · split_ifs
    · simp
    · exact Nat.toDigits_ne_nil
  · unfold writeExponent
    simp only [decide_eq_true_eq]
  · have hw : worth (if (writeNatural e.natAbs).length < 2 then '0' :: writeNatural e.natAbs
        else writeNatural e.natAbs) = e.natAbs := by
      split_ifs
      · exact hworth
      · exact worth_writeNatural _
    rw [hw]
    simp only [decide_eq_true_eq]
    split_ifs <;> omega

section Layout
variable {whole places digits : Text}

theorem means_point (hw : IsWhole whole) (hp : Digits places) (hne : places ≠ []) :
    Means (whole ++ '.' :: places) (worth (whole ++ places) * 10 ^ (-(places.length : Int))) := by
  refine ⟨⟨whole, places, none⟩, ?_, ⟨hw, hp, ?_, Or.inl hne⟩, ?_⟩
  · simp [Decimal.text, Decimal.placesText, Decimal.powerText, hne]
  · rintro negative digits ⟨⟩
  · simp [Decimal.digits, Decimal.place, Decimal.powerValue]

theorem means_exponent (hw : IsWhole whole) (hp : Digits places) (e : Int) :
    Means (whole ++ ((if places.isEmpty then [] else '.' :: places) ++ writeExponent e))
      (worth (whole ++ places) * 10 ^ (e - places.length)) := by
  obtain ⟨digits, hd, hne, htext, hvalue⟩ := writeExponent_eq e
  refine ⟨⟨whole, places, some (decide (e < 0), digits)⟩, ?_,
    ⟨hw, hp, ?_, Or.inr (by simp)⟩, ?_⟩
  · simp only [Decimal.text, Decimal.placesText, Decimal.powerText]
    rw [htext]
  · rintro negative digits' ⟨⟩
    exact ⟨hd, hne⟩
  · simp only [Decimal.digits, Decimal.place, Decimal.powerValue]
    rw [hvalue]

theorem isWhole_zero : IsWhole ['0'] :=
  ⟨digits_zeros 1, by simp, fun _ => rfl⟩

theorem isWhole_of_head? (hd : Digits digits) (hne : digits ≠ []) (hz : digits.head? ≠ some '0') :
    IsWhole digits :=
  ⟨hd, hne, fun h => absurd h hz⟩

/-- **Whatever the layout of digits, they mean the same.** -/
theorem means_layout (hd : Digits digits) (hne : digits ≠ []) (hz : digits.head? ≠ some '0')
    (place : Int) : Means (layout digits place) (worth digits * 10 ^ place) := by
  have hpos : 0 < digits.length := List.length_pos_iff.mpr hne
  unfold layout
  dsimp only
  split_ifs with hpoint hsmall hwhole
  · -- zeros before the digits
    obtain ⟨count, hcount⟩ : ∃ count : Nat, count = (-(digits.length + place : Int)).toNat :=
      ⟨_, rfl⟩
    have h := means_point isWhole_zero (digits_append (digits_zeros count) hd) (by simp [hne])
    have hworth : worth (['0'] ++ (List.replicate count '0' ++ digits)) = worth digits :=
      (worth_zeros_append 1 _).trans (worth_zeros_append count digits)
    have hplace : -((List.replicate count '0' ++ digits).length : Int) = place := by
      rw [List.length_append, List.length_replicate]
      omega
    rw [hworth, hplace] at h
    rw [← hcount]
    exact h
  · -- zeros after the digits
    obtain ⟨count, rfl⟩ := Int.eq_ofNat_of_zero_le hwhole
    have hhead : (digits ++ List.replicate count '0').head? ≠ some '0' := by
      rw [List.head?_append_of_ne_nil _ hne]
      exact hz
    have h := means_point (isWhole_of_head? (digits_append hd (digits_zeros count))
      (by simp [hne]) hhead) (digits_zeros 1) (by simp)
    have hvalue : (worth (digits ++ List.replicate count '0' ++ List.replicate 1 '0') : ℚ) *
        10 ^ (-((List.replicate 1 '0').length : Int)) = worth digits * 10 ^ (count : Int) := by
      rw [worth_append_zeros, worth_append_zeros]
      push_cast
      simp
    rw [hvalue] at h
    exact h
  · -- the point stands between the digits
    obtain ⟨count, hcount⟩ : ∃ count : Nat, count = (digits.length + place : Int).toNat := ⟨_, rfl⟩
    have htake : digits.take count ≠ [] := by
      intro h
      rw [List.take_eq_nil_iff] at h
      rcases h with h | h
      · omega
      · exact hne h
    have hhead : (digits.take count).head? ≠ some '0' := by
      rw [List.head?_take, if_neg (by omega)]
      exact hz
    have hwhole' : Digits (digits.take count) := fun c hc => hd c (List.mem_of_mem_take hc)
    have hplaces : Digits (digits.drop count) := fun c hc => hd c (List.mem_of_mem_drop hc)
    have h := means_point (isWhole_of_head? hwhole' htake hhead) hplaces
      (by rw [Ne, List.drop_eq_nil_iff]; omega)
    have hplace : -((digits.drop count).length : Int) = place := by
      rw [List.length_drop]
      omega
    rw [List.take_append_drop, hplace] at h
    rw [← hcount]
    exact h
  · -- one digit before the point, and an exponent
    cases digits with
    | nil => exact absurd rfl hne
    | cons d more =>
      have hfirst : IsWhole [d] := by
        refine isWhole_of_head? (fun c hc => hd c (by simp_all)) (by simp) ?_
        simpa using hz
      have hmore : Digits more := fun c hc => hd c (by simp [hc])
      have h := means_exponent hfirst hmore ((d :: more).length + place - 1)
      have hplace : ((d :: more).length + place - 1 - more.length : Int) = place := by
        rw [List.length_cons]
        omega
      rw [hplace] at h
      cases more <;> exact h

/-- Zeros at the end of the digits are left out, and counted. -/
theorem trimZeros_spec {n : Nat} (hn : 0 < n) (place : Int) :
    ∃ kept count, trimZeros (writeNatural n) place = (kept, place + (count : Nat)) ∧
      writeNatural n = kept ++ List.replicate count '0' ∧ kept ≠ [] := by
  have hsplit : writeNatural n = dropRight (· == '0') (writeNatural n) ++
      ((writeNatural n).reverse.takeWhile (· == '0')).reverse := by
    unfold dropRight
    rw [← List.reverse_append, List.takeWhile_append_dropWhile, List.reverse_reverse]
  have hzeros : ((writeNatural n).reverse.takeWhile (· == '0')).reverse =
      List.replicate ((writeNatural n).reverse.takeWhile (· == '0')).length '0' := by
    rw [List.eq_replicate_iff]
    refine ⟨by simp, fun c hc => ?_⟩
    have hall := List.all_eq_true.mp List.all_takeWhile c (List.mem_reverse.mp hc)
    simpa using hall
  rw [hzeros] at hsplit
  refine ⟨_, _, ?_, hsplit, ?_⟩
  · unfold trimZeros
    dsimp only
    congr 2
    have hlen := congrArg List.length hsplit
    rw [List.length_append, List.length_replicate] at hlen
    omega
  · intro hnil
    rw [hnil, List.nil_append] at hsplit
    have hworth := worth_writeNatural n
    have hz := worth_append_zeros [] ((writeNatural n).reverse.takeWhile (· == '0')).length
    rw [List.nil_append, ← hsplit, hworth] at hz
    have : n = 0 := by simpa [worth, Nat.ofDigitChars] using hz
    omega

/-- **The text of a number means what is read as it.** -/
theorem write_finite {mantissa : Nat} {exponent : Int} (hc : Canonical mantissa exponent)
    (negative : Bool) : ∃ decimal : Decimal, decimal.Proper ∧
      write (.finite negative mantissa exponent) =
        (if negative then '-' :: decimal.text else decimal.text) ∧
      ofDecimal negative decimal.digits decimal.place = .finite negative mantissa exponent := by
  by_cases hm : mantissa = 0
  · subst hm
    have he : exponent = -1074 := hc.full.resolve_left (by norm_num)
    subst he
    refine ⟨⟨['0'], ['0'], none⟩, ⟨isWhole_zero, digits_zeros 1, ?_, Or.inl (by simp)⟩, rfl, ?_⟩
    · rintro negative digits ⟨⟩
    · rfl
  · have hpos := Nat.pos_of_ne_zero hm
    have hw := shortest_within hc hpos
    generalize hs : shortest mantissa exponent = found at hw
    obtain ⟨n, place⟩ := found
    have hn : 0 < n := by
      have hq := hw.pos hpos
      rw [mul_pos_iff_of_pos_right (by positivity)] at hq
      exact_mod_cast hq
    obtain ⟨kept, count, htrim, hdigits, hne⟩ := trimZeros_spec hn place
    have hd : Digits kept := fun c hc => digits_writeNatural n c (by simp [hdigits, hc])
    have hz : kept.head? ≠ some '0' := by
      have h := head?_writeNatural hn
      rwa [hdigits, List.head?_append_of_ne_nil _ hne] at h
    obtain ⟨decimal, htext, hproper, hvalue⟩ := means_layout hd hne hz (place + (count : Nat))
    have hsame : (worth kept : ℚ) * 10 ^ (place + (count : Nat)) = n * 10 ^ place := by
      have hworth : n = worth kept * 10 ^ count := by
        rw [← worth_append_zeros, ← hdigits, worth_writeNatural]
      rw [hworth, zpow_add₀ (by norm_num), zpow_natCast]
      push_cast
      ring
    refine ⟨decimal, hproper, ?_, ?_⟩
    · unfold write
      dsimp only
      rw [if_neg hm, hs]
      dsimp only
      rw [htrim]
      dsimp only
      rw [htext]
    · refine ofDecimal_of_within hc hpos ?_
      rw [hvalue, hsame]
      exact hw

/-! ### Characters -/

/-- Digits and the other characters of numbers. -/
def isNumeric (c : Char) : Bool :=
  c.isDigit || ['.', '+', '-', 'e', 'i', 'n', 'f', 'a'].contains c

theorem isNumeric_of_digits {text : Text} (h : Digits text) : ∀ c ∈ text, isNumeric c = true :=
  fun c hc => Bool.or_eq_true_iff.mpr (Or.inl (h c hc))

theorem isNumeric_writeExponent (e : Int) : ∀ c ∈ writeExponent e, isNumeric c = true := by
  obtain ⟨digits, hd, -, htext, -⟩ := writeExponent_eq e
  rw [htext, List.forall_mem_cons, List.forall_mem_cons]
  refine ⟨rfl, ?_, isNumeric_of_digits hd⟩
  split <;> rfl

theorem isNumeric_layout (hd : Digits digits) (place : Int) :
    ∀ c ∈ layout digits place, isNumeric c = true := by
  have hdigits := isNumeric_of_digits hd
  have hzeros := fun count => isNumeric_of_digits (digits_zeros count)
  unfold layout
  dsimp only
  split_ifs
  · rw [List.cons_append, List.cons_append, List.forall_mem_cons, List.forall_mem_cons,
      List.forall_mem_append]
    exact ⟨rfl, rfl, hzeros _, hdigits⟩
  · rw [List.forall_mem_append, List.forall_mem_append]
    exact ⟨⟨hdigits, hzeros _⟩, List.all_eq_true.mp rfl⟩
  · rw [List.forall_mem_append, List.forall_mem_cons]
    exact ⟨fun c hc => hdigits c (List.mem_of_mem_take hc), rfl,
      fun c hc => hdigits c (List.mem_of_mem_drop hc)⟩
  · split
    · exact fun c hc => absurd hc List.not_mem_nil
    · next d _ =>
      rw [List.forall_mem_cons]
      exact ⟨hdigits d (by simp), isNumeric_writeExponent _⟩
    · next d more _ _ =>
      rw [List.cons_append, List.cons_append, List.forall_mem_cons, List.forall_mem_cons,
        List.forall_mem_append]
      exact ⟨hdigits d (by simp), rfl, fun c hc => hdigits c (by simp [hc]),
        isNumeric_writeExponent _⟩

/-- **A number is written in the characters of numbers.** -/
theorem isNumeric_write (x : Binary64) : ∀ c ∈ x.write, isNumeric c = true := by
  cases x with
  | infinite negative => cases negative <;> exact List.all_eq_true.mp rfl
  | notANumber => exact List.all_eq_true.mp rfl
  | finite negative mantissa exponent =>
    unfold write
    dsimp only
    generalize shortest mantissa exponent = found
    obtain ⟨n, place⟩ := found
    dsimp only
    have hdigits : Digits (trimZeros (writeNatural n) place).1 := by
      refine fun c hc => digits_writeNatural n c ?_
      exact List.mem_reverse.mp ((List.dropWhile_suffix _).subset (List.mem_reverse.mp hc))
    generalize trimZeros (writeNatural n) place = trimmed at hdigits
    obtain ⟨digits, place⟩ := trimmed
    have hbody : ∀ c ∈ (if mantissa = 0 then ['0', '.', '0'] else layout digits place),
        isNumeric c = true := by
      split
      · exact List.all_eq_true.mp rfl
      · exact isNumeric_layout hdigits place
    dsimp only
    split
    · exact List.forall_mem_cons.mpr ⟨rfl, hbody⟩
    · exact hbody

end Layout

end CmdletShell.Proofs.Numbers.Decimals
