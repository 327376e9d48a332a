import CmdletShell.Number.Shortest
import Mathlib.Algebra.Order.Field.Power
import Mathlib.Data.Nat.Log
import Mathlib.Data.Rat.Cast.Order
import Mathlib.Tactic.FieldSimp
import Mathlib.Tactic.Linarith
import Mathlib.Tactic.NormNum
import Mathlib.Tactic.Positivity
import Mathlib.Tactic.Ring

/-!
# Rounding to the nearest number

A finite number is canonical if it has the largest mantissa that it can have (`Canonical`). The
fractions that round to it make up the interval `Within`, and they do: `ofRatio_of_within`. Whatever
a fraction rounds to is canonical, or infinite (`isCanonical_ofRatio`).

All comparisons are made between rational numbers. `exponentFor` finds the exponent at which a
fraction has 53 bits (`exponentFor_spec`); it is the exponent of the number, or the one below where
the fraction lies just below a power of two and is rounded up to it.
-/

namespace CmdletShell.Proofs.Numbers.Rounding

open CmdletShell.Binary64

variable {num den : Nat} {negative : Bool} {mantissa : Nat} {exponent : Int}

/-! ### Fractions -/

theorem ratio_den_pos (mantissa : Nat) (exponent : Int) : 0 < (ratio mantissa exponent).2 := by
  cases exponent <;> simp [ratio]

theorem ratio_eq (mantissa : Nat) (exponent : Int) :
    ((ratio mantissa exponent).1 : ℚ) / (ratio mantissa exponent).2 = mantissa * 2 ^ exponent := by
  cases exponent with
  | ofNat e => simp [ratio]
  | negSucc e =>
    simp only [ratio, Nat.pow_eq, Nat.cast_pow, Nat.cast_ofNat, zpow_negSucc]
    rw [div_eq_mul_inv]

theorem scaled_den_pos (num : Nat) (hd : 0 < den) (exponent : Int) :
    0 < (scaled num den exponent).2 := by
  cases exponent with
  | ofNat e => simp only [scaled, Nat.pow_eq]; positivity
  | negSucc e => exact hd

theorem scaled_eq (num den : Nat) (exponent : Int) :
    ((scaled num den exponent).1 : ℚ) / (scaled num den exponent).2 =
      (num / den : ℚ) / 2 ^ exponent := by
  cases exponent with
  | ofNat e =>
    simp only [scaled, Nat.pow_eq, Nat.cast_mul, Nat.cast_pow, Nat.cast_ofNat, Int.ofNat_eq_natCast,
      zpow_natCast]
    rw [div_div]
  | negSucc e =>
    simp only [scaled, Nat.pow_eq, Nat.cast_mul, Nat.cast_pow, Nat.cast_ofNat, zpow_negSucc]
    rw [div_inv_eq_mul, div_mul_eq_mul_div]

/-! ### Quotients -/

/-- A whole number is nearest to a rational one; of two, the even one is. -/
def Nearest (n : Nat) (q : ℚ) : Prop :=
  (n - 1 / 2 < q ∧ q < n + 1 / 2) ∨ (n % 2 = 0 ∧ n - 1 / 2 ≤ q ∧ q ≤ n + 1 / 2)

/-- **A quotient is rounded to the nearest whole number.** -/
theorem nearest_roundDiv (num : Nat) (hd : 0 < den) : Nearest (roundDiv num den) (num / den) := by
  have hd' : (0 : ℚ) < den := by exact_mod_cast hd
  have hsum : (num : ℚ) = den * (num / den : Nat) + (num % den : Nat) := by
    exact_mod_cast (Nat.div_add_mod num den).symm
  have hlt : num % den < den := Nat.mod_lt num hd
  unfold roundDiv Nearest
  generalize num / den = q at hsum ⊢
  generalize num % den = r at hsum hlt ⊢
  have hq : (num / den : ℚ) = q + r / den := by
    rw [hsum]
    field_simp
  have hr : (0 : ℚ) ≤ r / den := by positivity
  have hr' : (r / den : ℚ) < 1 := by
    rw [div_lt_one hd']
    exact_mod_cast hlt
  have hhalf : (r / den : ℚ) < 1 / 2 ↔ 2 * r < den := by
    rw [div_lt_div_iff₀ hd' (by norm_num)]
    norm_cast
    omega
  have hhalf' : (1 / 2 : ℚ) < r / den ↔ den < 2 * r := by
    rw [div_lt_div_iff₀ (by norm_num) hd']
    norm_cast
    omega
  rw [hq]
  dsimp only
  by_cases h : den < 2 * r
  · have ht := hhalf'.mpr h
    simp only [h, decide_true, Bool.true_or, if_true]
    push_cast
    left
    constructor <;> linarith
  · by_cases h' : 2 * r < den
    · have ht := hhalf.mpr h'
      have hne : ¬ 2 * r = den := by omega
      simp only [h, hne, decide_false, beq_iff_eq, Bool.false_or, Bool.and_eq_true, false_and,
        if_false]
      left
      constructor <;> linarith
    · have heq : 2 * r = den := by omega
      have ht : (r / den : ℚ) = 1 / 2 := by
        apply le_antisymm
        · exact not_lt.mp (mt hhalf'.mp h)
        · exact not_lt.mp (mt hhalf.mp h')
      rw [ht]
      right
      by_cases hp : q % 2 = 1
      · simp only [heq, hp, beq_self_eq_true, Bool.and_self, Bool.or_true, if_true]
        refine ⟨by omega, ?_, ?_⟩ <;> push_cast <;> linarith
      · have hp' : q % 2 = 0 := by omega
        simp only [heq, hp', lt_irrefl]
        refine ⟨?_, ?_, ?_⟩ <;> simp <;> linarith

/-- The nearest whole number is the only one. -/
theorem Nearest.unique {n m : Nat} {q : ℚ} (h : Nearest n q) (h' : Nearest m q) : n = m := by
  have hle : ∀ {a b : Nat}, Nearest a q → Nearest b q → a ≤ b := by
    intro a b ha hb
    by_contra hlt
    have hab : (b : ℚ) + 1 ≤ a := by exact_mod_cast (by omega : b + 1 ≤ a)
    rcases ha with ⟨hal, hau⟩ | ⟨hae, hal, hau⟩ <;> rcases hb with ⟨hbl, hbu⟩ | ⟨hbe, hbl, hbu⟩
    · linarith
    · linarith
    · linarith
    · have hab' : (b : ℚ) + 1 < a := by exact_mod_cast (by omega : b + 1 < a)
      linarith
  exact le_antisymm (hle h h') (hle h' h)

/-! ### Exponents -/

/-- A fraction lies between the powers of two that its parts tell. -/
theorem between_powers (hn : 0 < num) (hd : 0 < den) :
    (2 : ℚ) ^ ((num.log2 : Int) - den.log2 - 1) < num / den ∧
      (num / den : ℚ) < 2 ^ ((num.log2 : Int) - den.log2 + 1) := by
  have hd' : (0 : ℚ) < den := by exact_mod_cast hd
  have hnl : (2 : ℚ) ^ (num.log2 : Int) ≤ num := by
    exact_mod_cast Nat.log2_self_le hn.ne'
  have hnu : (num : ℚ) < 2 ^ ((num.log2 : Int) + 1) := by
    exact_mod_cast @Nat.lt_log2_self num
  have hdl : (2 : ℚ) ^ (den.log2 : Int) ≤ den := by
    exact_mod_cast Nat.log2_self_le hd.ne'
  have hdu : (den : ℚ) < 2 ^ ((den.log2 : Int) + 1) := by
    exact_mod_cast @Nat.lt_log2_self den
  constructor
  · rw [lt_div_iff₀ hd']
    calc (2 : ℚ) ^ ((num.log2 : Int) - den.log2 - 1) * den
        < 2 ^ ((num.log2 : Int) - den.log2 - 1) * 2 ^ ((den.log2 : Int) + 1) := by gcongr
      _ = 2 ^ (num.log2 : Int) := by
        rw [← zpow_add₀ (by norm_num)]
        congr 1
        omega
      _ ≤ num := hnl
  · rw [div_lt_iff₀ hd']
    calc (num : ℚ) < 2 ^ ((num.log2 : Int) + 1) := hnu
      _ = 2 ^ ((num.log2 : Int) - den.log2 + 1) * 2 ^ (den.log2 : Int) := by
        rw [← zpow_add₀ (by norm_num)]
        congr 1
        omega
      _ ≤ 2 ^ ((num.log2 : Int) - den.log2 + 1) * den := by gcongr

/-- Whether the scaled fraction has more than 53 bits. -/
theorem le_scaled_div (hd : 0 < den) (bound : Nat) (exponent : Int) :
    bound ≤ (scaled num den exponent).1 / (scaled num den exponent).2 ↔
      (bound : ℚ) * 2 ^ exponent ≤ num / den := by
  have hpos := scaled_den_pos num hd exponent
  have hpos' : (0 : ℚ) < (scaled num den exponent).2 := by exact_mod_cast hpos
  have hpow : (0 : ℚ) < 2 ^ exponent := by positivity
  rw [Nat.le_div_iff_mul_le hpos, ← le_div_iff₀ hpow, ← scaled_eq, le_div_iff₀ hpos']
  norm_cast

/-- **At the exponent of a fraction it has 53 bits**, or fewer at the least exponent. -/
theorem exponentFor_spec (hn : 0 < num) (hd : 0 < den) :
    -1074 ≤ exponentFor num den ∧ (num / den : ℚ) < 2 ^ 53 * 2 ^ exponentFor num den ∧
      (2 ^ 52 * 2 ^ exponentFor num den ≤ (num / den : ℚ) ∨ exponentFor num den = -1074) := by
  obtain ⟨hl, hu⟩ := between_powers hn hd
  unfold exponentFor
  dsimp only
  generalize he : max ((num.log2 : Int) - den.log2 - 53) (-1074) = e
  have hscaled := @le_scaled_div num den hd (Nat.pow 2 53) e
  rw [Nat.pow_eq, Nat.cast_pow, Nat.cast_ofNat] at hscaled
  split_ifs with h
  · have hge := hscaled.mp h
    refine ⟨by omega, ?_, Or.inl ?_⟩
    · calc (num / den : ℚ) < 2 ^ ((num.log2 : Int) - den.log2 + 1) := hu
        _ ≤ 2 ^ (53 + (e + 1)) := zpow_le_zpow_right₀ (by norm_num) (by omega)
        _ = 2 ^ 53 * 2 ^ (e + 1) := by rw [zpow_add₀ (by norm_num)]; norm_cast
    · calc (2 : ℚ) ^ 52 * 2 ^ (e + 1) = 2 ^ 53 * 2 ^ e := by
            rw [zpow_add₀ (by norm_num)]; ring
        _ ≤ (num / den : ℚ) := hge
  · have hlt := not_le.mp (mt hscaled.mpr h)
    refine ⟨by omega, hlt, ?_⟩
    by_cases hmin : e = -1074
    · exact Or.inr hmin
    · left
      calc (2 : ℚ) ^ 52 * 2 ^ e = 2 ^ (52 + e) := by rw [zpow_add₀ (by norm_num)]; norm_cast
        _ = 2 ^ ((num.log2 : Int) - den.log2 - 1) := by congr 1; omega
        _ ≤ (num / den : ℚ) := hl.le

/-! ### Canonical numbers -/

/-- The mantissa is the largest that the number has, or the exponent is the least, and the number is
not too large. -/
structure Canonical (mantissa : Nat) (exponent : Int) : Prop where
  mantissa_lt : mantissa < 2 ^ 53
  least : -1074 ≤ exponent
  greatest : exponent ≤ 971
  full : 2 ^ 52 ≤ mantissa ∨ exponent = -1074

/-- The place of a fraction between the neighbours of a number: beyond half the way to one of them
it is not the number any more, and at half the way it is if the mantissa is even. -/
structure Within (mantissa : Nat) (exponent : Int) (q : ℚ) : Prop where
  nearest : Nearest mantissa (q / 2 ^ exponent)
  /-- Below a power of two the next number is half as far away. -/
  below : mantissa = 2 ^ 52 → -1074 < exponent → (mantissa - 1 / 4 : ℚ) ≤ q / 2 ^ exponent

/-- A fraction that is rounded at an exponent. -/
theorem roundDiv_scaled {n : Nat} (hd : 0 < den) (h : Nearest n ((num / den : ℚ) / 2 ^ exponent)) :
    roundDiv (scaled num den exponent).1 (scaled num den exponent).2 = n := by
  have hn := nearest_roundDiv (scaled num den exponent).1 (scaled_den_pos num hd exponent)
  rw [scaled_eq] at hn
  exact hn.unique h

theorem Nearest.bounds {n : Nat} {q : ℚ} (h : Nearest n q) :
    (n - 1 / 2 : ℚ) ≤ q ∧ q ≤ n + 1 / 2 := by
  rcases h with ⟨hl, hu⟩ | ⟨-, hl, hu⟩
  · exact ⟨hl.le, hu.le⟩
  · exact ⟨hl, hu⟩

theorem Within.pos {q : ℚ} (h : Within mantissa exponent q) (hm : 0 < mantissa) : 0 < q := by
  have hl := h.nearest.bounds.1
  have hm' : (1 : ℚ) ≤ mantissa := by exact_mod_cast hm
  have hpow : (0 : ℚ) < 2 ^ exponent := by positivity
  have hy : 0 < q / 2 ^ exponent := by linarith
  exact (div_pos_iff_of_pos_right hpow).mp hy

/-- The exponent of a fraction is the one of the number that it lies near to, or, just below a power
of two, the one below. -/
theorem exponentFor_of_within (hc : Canonical mantissa exponent) (hn : 0 < num) (hd : 0 < den)
    (h : Within mantissa exponent (num / den)) :
    exponentFor num den = exponent ∨
      (exponentFor num den = exponent - 1 ∧ mantissa = 2 ^ 52 ∧ -1074 < exponent ∧
        (num / den : ℚ) / 2 ^ exponent < 2 ^ 52) := by
  obtain ⟨hleast, hlt, hfull⟩ := exponentFor_spec hn hd
  obtain ⟨hl, hu⟩ := h.nearest.bounds
  generalize exponentFor num den = e at hleast hlt hfull ⊢
  generalize (num / den : ℚ) = q at h hlt hfull hl hu ⊢
  have hpow : (0 : ℚ) < 2 ^ exponent := by positivity
  have hq : q = q / 2 ^ exponent * 2 ^ exponent := by field_simp
  have hmlt : (mantissa : ℚ) + 1 ≤ 2 ^ 53 := by exact_mod_cast hc.mantissa_lt
  rcases lt_trichotomy e exponent with hlow | heq | hhigh
  · -- one bit less would make the mantissa too large, unless the fraction is below `2 ^ 52`
    have hstep : (2 : ℚ) ^ e ≤ 2 ^ (exponent - 1) := zpow_le_zpow_right₀ (by norm_num) (by omega)
    rw [zpow_sub_one₀ (by norm_num)] at hstep
    have hy : q / 2 ^ exponent < 2 ^ 52 := by
      rw [div_lt_iff₀ hpow]
      linarith
    have hfull' : 2 ^ 52 ≤ mantissa := hc.full.resolve_right (by omega)
    have hmle : (mantissa : ℚ) < 2 ^ 52 + 1 := by linarith
    have hmeq : mantissa = 2 ^ 52 := by
      have : mantissa < 2 ^ 52 + 1 := by exact_mod_cast hmle
      omega
    refine Or.inr ⟨?_, hmeq, by omega, hy⟩
    by_contra hne
    have hstep' : (2 : ℚ) ^ e ≤ 2 ^ (exponent - 2) :=
      zpow_le_zpow_right₀ (by norm_num) (by omega)
    have htwo : (2 : ℚ) ^ (exponent - 2) = 2 ^ exponent / 4 := by
      rw [zpow_sub₀ (by norm_num)]
      norm_num
    rw [htwo] at hstep'
    have hy' : q / 2 ^ exponent < 2 ^ 51 := by
      rw [div_lt_iff₀ hpow]
      linarith
    rw [hmeq] at hl
    push_cast at hl
    linarith
  · exact Or.inl heq
  · -- one bit more would leave the mantissa less than 53 bits
    exfalso
    have hstep : (2 : ℚ) ^ (exponent + 1) ≤ 2 ^ e := zpow_le_zpow_right₀ (by norm_num) (by omega)
    rw [zpow_add_one₀ (by norm_num)] at hstep
    have hge := hfull.resolve_right (by have := hc.least; omega)
    have hy : 2 ^ 53 ≤ q / 2 ^ exponent := by
      rw [le_div_iff₀ hpow]
      linarith
    linarith

/-- **What lies within the interval of a number is rounded to it.** -/
theorem ofRatio_of_within (hc : Canonical mantissa exponent) (hm : 0 < mantissa) (hd : 0 < den)
    (h : Within mantissa exponent (num / den)) :
    ofRatio negative num den = .finite negative mantissa exponent := by
  have hd' : (0 : ℚ) < den := by exact_mod_cast hd
  have hn : 0 < num := by
    have hpos := h.pos hm
    rw [div_pos_iff_of_pos_right hd'] at hpos
    exact_mod_cast hpos
  have hmne : mantissa ≠ Nat.pow 2 53 := hc.mantissa_lt.ne
  have hgreatest := hc.greatest
  unfold ofRatio
  rw [if_neg hn.ne']
  rcases exponentFor_of_within hc hn hd h with he | ⟨he, hmeq, hgt, hy⟩
  · dsimp only
    rw [he, roundDiv_scaled hd h.nearest, if_neg hmne]
    dsimp only
    rw [if_neg (by omega)]
  · have hbelow := h.below hmeq hgt
    have hdouble : (num / den : ℚ) / 2 ^ (exponent - 1) = 2 * (num / den / 2 ^ exponent) := by
      rw [zpow_sub_one₀ (by norm_num)]
      field_simp
    have hnear : Nearest (Nat.pow 2 53) ((num / den : ℚ) / 2 ^ (exponent - 1)) := by
      rw [hdouble]
      rw [hmeq] at hbelow
      refine Or.inr ⟨by decide, ?_, ?_⟩
      · rw [Nat.pow_eq]
        push_cast at hbelow ⊢
        linarith
      · rw [Nat.pow_eq]
        push_cast
        linarith
    dsimp only
    rw [he, roundDiv_scaled hd hnear, if_pos rfl]
    dsimp only
    rw [if_neg (by omega), hmeq, Int.sub_add_cancel]
    rfl

/-- The number is canonical, if it is a finite one. -/
def IsCanonical : Binary64 → Prop
  | .finite _ mantissa exponent => Canonical mantissa exponent
  | _ => True

theorem isCanonical_zero (negative : Bool) : IsCanonical (zero negative) :=
  ⟨by norm_num, by norm_num, by norm_num, Or.inr rfl⟩

/-- **Rounding gives canonical numbers.** -/
theorem isCanonical_ofRatio (hd : 0 < den) : IsCanonical (ofRatio negative num den) := by
  unfold ofRatio
  split_ifs with hn
  · exact isCanonical_zero negative
  · obtain ⟨hleast, hlt, hfull⟩ := exponentFor_spec (Nat.pos_of_ne_zero hn) hd
    have hnear := nearest_roundDiv (scaled num den (exponentFor num den)).1
      (scaled_den_pos num hd (exponentFor num den))
    rw [scaled_eq] at hnear
    dsimp only
    generalize exponentFor num den = e at hleast hlt hfull hnear ⊢
    generalize roundDiv (scaled num den e).1 (scaled num den e).2 = m at hnear ⊢
    obtain ⟨hl, hu⟩ := hnear.bounds
    have hpow : (0 : ℚ) < 2 ^ e := by positivity
    have hle : m ≤ 2 ^ 53 := by
      have hy : (num / den : ℚ) / 2 ^ e < 2 ^ 53 := by rwa [div_lt_iff₀ hpow]
      have hm : (m : ℚ) < 2 ^ 53 + 1 := by linarith
      have : m < 2 ^ 53 + 1 := by exact_mod_cast hm
      omega
    split_ifs with hcarry h h
    · exact trivial
    · exact ⟨by norm_num, by omega, by omega, Or.inl le_rfl⟩
    · exact trivial
    · have hne : m ≠ 2 ^ 53 := hcarry
      refine ⟨by omega, hleast, by omega, hfull.imp_left fun hge => ?_⟩
      have hy : 2 ^ 52 ≤ (num / den : ℚ) / 2 ^ e := by rwa [le_div_iff₀ hpow]
      have hm : (2 ^ 52 : ℚ) < m + 1 := by linarith
      have : 2 ^ 52 < m + 1 := by exact_mod_cast hm
      omega

/-! ### Decimal numbers -/

theorem decimalRatio_den_pos (n : Nat) (exponent : Int) : 0 < (decimalRatio n exponent).2 := by
  cases exponent <;> simp [decimalRatio]

theorem decimalRatio_eq (n : Nat) (exponent : Int) :
    ((decimalRatio n exponent).1 : ℚ) / (decimalRatio n exponent).2 = n * 10 ^ exponent := by
  cases exponent with
  | ofNat e => simp [decimalRatio]
  | negSucc e =>
    simp only [decimalRatio, Nat.pow_eq, Nat.cast_pow, Nat.cast_ofNat, zpow_negSucc]
    rw [div_eq_mul_inv]

/-- A number with so many digits lies between these powers of ten. -/
theorem between_powers_ten {n : Nat} (hn : 0 < n) :
    10 ^ ((Nat.toDigits 10 n).length - 1) ≤ n ∧ n < 10 ^ (Nat.toDigits 10 n).length := by
  have hpos : 0 < (Nat.toDigits 10 n).length := Nat.length_toDigits_pos
  refine ⟨?_, (Nat.length_toDigits_le_iff (by norm_num) hpos).mp le_rfl⟩
  by_contra hlt
  have hlt' := not_le.mp hlt
  by_cases h : (Nat.toDigits 10 n).length - 1 = 0
  · rw [h] at hlt'
    omega
  · have hle := (Nat.length_toDigits_le_iff (b := 10) (by norm_num) (Nat.pos_of_ne_zero h)).mpr hlt'
    omega

theorem ofDecimal_eq_ofRatio {digits : Nat} (hn : digits ≠ 0)
    (hu : ((Nat.toDigits 10 digits).length : Int) + exponent ≤ 310)
    (hl : -330 ≤ ((Nat.toDigits 10 digits).length : Int) + exponent) :
    ofDecimal negative digits exponent =
      ofRatio negative (decimalRatio digits exponent).1 (decimalRatio digits exponent).2 := by
  unfold ofDecimal
  dsimp only
  rw [if_neg hn, if_neg (by omega), if_neg (by omega)]
  cases exponent <;> rfl

theorem isCanonical_ofDecimal (digits : Nat) :
    IsCanonical (ofDecimal negative digits exponent) := by
  unfold ofDecimal
  dsimp only
  split_ifs
  · exact isCanonical_zero negative
  · exact trivial
  · exact isCanonical_zero negative
  · have h : IsCanonical (ofRatio negative (decimalRatio digits exponent).1
        (decimalRatio digits exponent).2) :=
      isCanonical_ofRatio (decimalRatio_den_pos digits exponent)
    cases exponent <;> exact h

theorem two_zpow_lt : (2 : ℚ) ^ (1024 : Int) < 10 ^ (309 : Int) := by
  have hstep : (2 : ℚ) ^ 93 < 10 ^ 28 := by norm_num
  calc (2 : ℚ) ^ (1024 : Int) = (2 ^ 93) ^ 11 * 2 := by rw [← pow_mul, ← pow_succ]; rfl
    _ < (10 ^ 28) ^ 11 * 10 := by gcongr; norm_num
    _ = 10 ^ (309 : Int) := by rw [← pow_mul, ← pow_succ]; rfl

theorem ten_zpow_lt : (10 : ℚ) ^ (-330 : Int) < 2 ^ (-1075 : Int) := by
  have hstep : (2 : ℚ) ^ 43 < 10 ^ 13 := by norm_num
  have hpow : (2 : ℚ) ^ (1075 : Int) < 10 ^ (330 : Int) := by
    calc (2 : ℚ) ^ (1075 : Int) = (2 ^ 43) ^ 25 := by rw [← pow_mul]; rfl
      _ < (10 ^ 13) ^ 25 := by gcongr
      _ = 10 ^ (325 : Int) := by rw [← pow_mul]; rfl
      _ ≤ 10 ^ (330 : Int) := zpow_le_zpow_right₀ (by norm_num) (by norm_num)
  rw [zpow_neg, zpow_neg]
  gcongr

/-- Finite numbers lie well between the powers of ten at which reading gives up. -/
theorem Within.between {q : ℚ} (hc : Canonical mantissa exponent) (hm : 0 < mantissa)
    (h : Within mantissa exponent q) : (10 : ℚ) ^ (-330 : Int) < q ∧ q < 10 ^ (309 : Int) := by
  obtain ⟨hl, hu⟩ := h.nearest.bounds
  have hm' : (1 : ℚ) ≤ mantissa := by exact_mod_cast hm
  have hmlt : (mantissa : ℚ) + 1 ≤ 2 ^ 53 := by exact_mod_cast hc.mantissa_lt
  have hpow : (0 : ℚ) < 2 ^ exponent := by positivity
  have hleast : (2 : ℚ) ^ (-1074 : Int) ≤ 2 ^ exponent := zpow_le_zpow_right₀ (by norm_num) hc.least
  have hgreatest : (2 : ℚ) ^ exponent ≤ 2 ^ (971 : Int) :=
    zpow_le_zpow_right₀ (by norm_num) hc.greatest
  constructor
  · calc (10 : ℚ) ^ (-330 : Int) < 2 ^ (-1075 : Int) := ten_zpow_lt
      _ = 1 / 2 * 2 ^ (-1074 : Int) := by
        rw [one_div, ← zpow_neg_one, ← zpow_add₀ (by norm_num)]
        norm_num
      _ ≤ 1 / 2 * 2 ^ exponent := by linarith
      _ ≤ q := by
        rw [← le_div_iff₀ hpow]
        linarith
  · calc q < 2 ^ 53 * 2 ^ exponent := by
          rw [← div_lt_iff₀ hpow]
          linarith
      _ ≤ 2 ^ (53 : Int) * 2 ^ (971 : Int) := by
          rw [show (2 : ℚ) ^ (53 : Int) = 2 ^ 53 from rfl]
          linarith
      _ = 2 ^ (1024 : Int) := by rw [← zpow_add₀ (by norm_num)]; norm_num
      _ < 10 ^ (309 : Int) := two_zpow_lt

/-- **A decimal number within the interval of a number is read as it.** -/
theorem ofDecimal_of_within {digits : Nat} {place : Int} (hc : Canonical mantissa exponent)
    (hm : 0 < mantissa) (h : Within mantissa exponent (digits * 10 ^ place)) :
    ofDecimal negative digits place = .finite negative mantissa exponent := by
  obtain ⟨hl, hu⟩ := h.between hc hm
  have hten : (0 : ℚ) < 10 ^ place := by positivity
  have hdigits : 0 < digits := by
    have hpos := h.pos hm
    rw [mul_pos_iff_of_pos_right hten] at hpos
    exact_mod_cast hpos
  obtain ⟨hsl, hsu⟩ := between_powers_ten hdigits
  have hsize : 0 < (Nat.toDigits 10 digits).length := Nat.length_toDigits_pos
  generalize hs : (Nat.toDigits 10 digits).length = size at hsl hsu hsize
  have hsl' : (10 : ℚ) ^ ((size - 1 : Nat) : Int) ≤ digits := by exact_mod_cast hsl
  have hsu' : (digits : ℚ) < 10 ^ (size : Int) := by exact_mod_cast hsu
  have hupper : (size : Int) + place ≤ 310 := by
    have hlt : (10 : ℚ) ^ (((size - 1 : Nat) : Int) + place) < 10 ^ (309 : Int) := by
      rw [zpow_add₀ (by norm_num)]
      exact lt_of_le_of_lt (by gcongr) hu
    rw [zpow_lt_zpow_iff_right₀ (by norm_num)] at hlt
    omega
  have hlower : -330 ≤ (size : Int) + place := by
    have hlt : (10 : ℚ) ^ (-330 : Int) < 10 ^ ((size : Int) + place) := by
      rw [zpow_add₀ (by norm_num)]
      exact hl.trans (by gcongr)
    rw [zpow_lt_zpow_iff_right₀ (by norm_num)] at hlt
    omega
  rw [ofDecimal_eq_ofRatio hdigits.ne' (by omega) (by omega)]
  refine ofRatio_of_within hc hm (decimalRatio_den_pos digits place) ?_
  rw [decimalRatio_eq]
  exact h

end CmdletShell.Proofs.Numbers.Rounding
