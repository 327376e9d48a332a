import CmdletShell.Number.Basic
import CmdletShell.Proofs.Numbers.Rounding

/-!
# The time between two readings

A timer that runs backwards took no time (`elapsedMillis_eq_zero`): every step of the computation
keeps the sign (`NotPositive`). The readings of a clock are finite and not too large (`IsReading`);
for them the time is computed from a finite number, since rounding can at most double a fraction and
add one (`exists_ofRatio_eq`, `finite_scale_sub`). `Timed` puts together what is known of a time.
-/

namespace CmdletShell.Proofs.Numbers.Elapsed

open CmdletShell.Binary64 CmdletShell.Proofs.Numbers.Rounding

variable {x y : Binary64} {negative : Bool} {num den : Nat}

/-- The rational number that a finite number is. -/
def valueOf : Binary64 → ℚ
  | .finite s m e => signed s m * 2 ^ e
  | _ => 0

/-- The number is finite. -/
def IsFinite : Binary64 → Prop
  | .finite .. => True
  | _ => False

/-- Neither the number nor what it is rounded to is above zero. -/
def NotPositive : Binary64 → Prop
  | .finite s m _ => s = true ∨ m = 0
  | .infinite s => s = true
  | .notANumber => True

/-! ### Signs -/

theorem signed_eq_mul (s : Bool) (m : Nat) : signed s m = signed s 1 * m := by
  cases s <;> simp [signed]

theorem ofRatio_zero (negative : Bool) (den : Nat) : ofRatio negative 0 den = zero negative := rfl

theorem notPositive_ofRatio (num den : Nat) : NotPositive (ofRatio true num den) := by
  unfold ofRatio
  split_ifs with hn
  · exact Or.inl rfl
  · dsimp only
    split_ifs
    · exact rfl
    · exact Or.inl rfl
    · exact rfl
    · exact Or.inl rfl

theorem ratio_num_zero (e : Int) : (ratio 0 e).1 = 0 := by
  cases e <;> simp [ratio]

theorem notPositive_scale (h : NotPositive x) (factor : Nat) : NotPositive (x.scale factor) := by
  cases x with
  | finite s m e =>
    rw [scale]
    rcases h with rfl | rfl
    · exact notPositive_ofRatio _ _
    · dsimp only
      rw [ratio_num_zero, Nat.zero_mul, ofRatio_zero]
      exact Or.inr rfl
  | infinite s => exact h
  | notANumber => exact h

theorem round_nonpos (h : NotPositive x) : x.round ≤ 0 := by
  cases x with
  | finite s m e =>
    unfold Binary64.round
    rcases h with rfl | rfl
    · simp [signed]
    · have hzero : roundDiv 0 (ratio 0 e).2 = 0 := by simp [roundDiv]
      dsimp only
      rw [ratio_num_zero, hzero]
      cases s <;> simp [signed]
  | infinite s => exact Int.le_refl 0
  | notANumber => exact Int.le_refl 0

/-- The parts of a number as fractions, with its sign. -/
theorem valueOf_finite (s : Bool) (m : Nat) (e : Int) :
    valueOf (.finite s m e) = signed s (ratio m e).1 / (ratio m e).2 := by
  have hratio := ratio_eq m e
  rw [valueOf, signed_eq_mul s m, signed_eq_mul s (ratio m e).1]
  push_cast
  rw [mul_assoc, ← hratio, mul_div_assoc]

/-- The numerator of the difference of two numbers, over the product of their denominators. -/
def numerator (s : Bool) (m : Nat) (e : Int) (t : Bool) (k : Nat) (f : Int) : Int :=
  signed s (ratio m e).1 * (ratio k f).2 - signed t (ratio k f).1 * (ratio m e).2

theorem sub_finite (s : Bool) (m : Nat) (e : Int) (t : Bool) (k : Nat) (f : Int) :
    sub (.finite s m e) (.finite t k f) =
      if numerator s m e t k f = 0 then zero (m == 0 && s && !t)
      else ofRatio (numerator s m e t k f < 0) (numerator s m e t k f).natAbs
        ((ratio m e).2 * (ratio k f).2) := rfl

/-- The difference before it is rounded. -/
theorem numerator_div (s : Bool) (m : Nat) (e : Int) (t : Bool) (k : Nat) (f : Int) :
    (numerator s m e t k f : ℚ) / ((ratio m e).2 * (ratio k f).2) =
      valueOf (.finite s m e) - valueOf (.finite t k f) := by
  have hb : ((ratio m e).2 : ℚ) ≠ 0 := by exact_mod_cast (ratio_den_pos m e).ne'
  have hd : ((ratio k f).2 : ℚ) ≠ 0 := by exact_mod_cast (ratio_den_pos k f).ne'
  rw [valueOf_finite, valueOf_finite, numerator]
  push_cast
  field_simp

theorem product_pos (m : Nat) (e : Int) (k : Nat) (f : Int) :
    0 < (ratio m e).2 * (ratio k f).2 :=
  Nat.mul_pos (ratio_den_pos m e) (ratio_den_pos k f)

theorem numerator_nonpos {s t : Bool} {m k : Nat} {e f : Int}
    (h : valueOf (.finite s m e) ≤ valueOf (.finite t k f)) : numerator s m e t k f ≤ 0 := by
  have hpos : (0 : ℚ) < (ratio m e).2 * (ratio k f).2 := by exact_mod_cast product_pos m e k f
  have hdiv := numerator_div s m e t k f
  by_contra hlt
  have hnum : (0 : ℚ) < numerator s m e t k f := by exact_mod_cast not_le.mp hlt
  have hquot := div_pos hnum hpos
  rw [hdiv] at hquot
  linarith

theorem notPositive_sub (h : valueOf y ≤ valueOf x) (hy : IsFinite y) (hx : IsFinite x) :
    NotPositive (y.sub x) := by
  cases y with
  | infinite s => exact hy.elim
  | notANumber => exact hy.elim
  | finite s m e =>
    cases x with
    | infinite t => exact hx.elim
    | notANumber => exact hx.elim
    | finite t k f =>
      have hle := numerator_nonpos h
      rw [sub_finite]
      split_ifs with hn
      · exact Or.inr rfl
      · have hneg : numerator s m e t k f < 0 := by omega
        rw [decide_eq_true hneg]
        exact notPositive_ofRatio _ _

/-- What is no finite number is rounded to zero, and so is its product. -/
theorem round_scale_of_not_isFinite (h : ¬ IsFinite x) (factor : Nat) :
    (x.scale factor).round = 0 := by
  cases x with
  | finite s m e => exact absurd trivial h
  | infinite s => rfl
  | notANumber => rfl

theorem isFinite_of_sub (h : IsFinite y ∧ IsFinite x → False) : ¬ IsFinite (y.sub x) := by
  cases y with
  | finite s m e =>
    cases x with
    | finite t k f => exact (h ⟨trivial, trivial⟩).elim
    | infinite t => exact id
    | notANumber => exact id
  | infinite s =>
    cases x with
    | finite t k f => exact id
    | infinite t =>
      rw [sub]
      split_ifs <;> exact id
    | notANumber => exact id
  | notANumber => exact id

/-- **A timer that runs backwards took no time.** -/
theorem elapsedMillis_eq_zero (h : valueOf y ≤ valueOf x) :
    elapsedMillis (.float x) (.float y) = 0 := by
  have hround : ((y.sub x).scale 1000).round ≤ 0 := by
    by_cases hfinite : IsFinite y ∧ IsFinite x
    · exact round_nonpos (notPositive_scale (notPositive_sub h hfinite.1 hfinite.2) 1000)
    · rw [round_scale_of_not_isFinite (isFinite_of_sub hfinite)]
  exact Int.toNat_of_nonpos hround

/-! ### Finite numbers -/

/-- A reading of a clock that counts no further than 64 bits. -/
structure IsReading (x : Binary64) : Prop where
  finite : IsFinite x
  bounded : |valueOf x| ≤ 2 ^ 64

/-- **A fraction that is not too large is rounded to a finite number**, which is at most one more
than twice as large. -/
theorem exists_ofRatio_eq (negative : Bool) (hd : 0 < den) (h : (num / den : ℚ) ≤ 2 ^ 100) :
    ∃ m e, ofRatio negative num den = .finite negative m e ∧
      (m * 2 ^ e : ℚ) ≤ 2 * (num / den) + 1 := by
  unfold ofRatio
  split_ifs with hn
  · refine ⟨0, -1074, rfl, ?_⟩
    have hq : (0 : ℚ) ≤ num / den := by positivity
    simpa using by linarith
  · obtain ⟨hleast, hlt, hfull⟩ := exponentFor_spec (Nat.pos_of_ne_zero hn) hd
    have hnear := nearest_roundDiv (scaled num den (exponentFor num den)).1
      (scaled_den_pos num hd (exponentFor num den))
    rw [scaled_eq] at hnear
    dsimp only
    generalize exponentFor num den = e at hleast hlt hfull hnear ⊢
    generalize roundDiv (scaled num den e).1 (scaled num den e).2 = m at hnear ⊢
    have hpow : (0 : ℚ) < 2 ^ e := by positivity
    have hq : (0 : ℚ) ≤ num / den := by positivity
    -- the last place is at most the fraction, or the least one there is
    have hplace : (2 : ℚ) ^ e ≤ num / den ∨ e = -1074 := by
      rcases hfull with hfull | hfull
      · left
        linarith
      · exact Or.inr hfull
    have hsmall : (2 : ℚ) ^ e ≤ num / den + 1 := by
      rcases hplace with hle | rfl
      · linarith
      · have htiny : (2 : ℚ) ^ (-1074 : Int) ≤ 2 ^ (0 : Int) :=
          zpow_le_zpow_right₀ (by norm_num) (by norm_num)
        rw [zpow_zero] at htiny
        linarith
    have hexp : e < 101 := by
      have hbound : (2 : ℚ) ^ e < 2 ^ (101 : Int) := by
        calc (2 : ℚ) ^ e ≤ num / den + 1 := hsmall
          _ < 2 ^ (101 : Int) := by
            have hstep : (2 : ℚ) ^ (101 : Int) = 2 * 2 ^ 100 := by norm_num
            rw [hstep]
            linarith
      exact (zpow_lt_zpow_iff_right₀ (by norm_num)).mp hbound
    have hvalue : (m * 2 ^ e : ℚ) ≤ 2 * (num / den) + 1 := by
      have hm := hnear.bounds.1
      have hscaled : (num / den : ℚ) / 2 ^ e * 2 ^ e = num / den := by field_simp
      calc (m * 2 ^ e : ℚ) ≤ (num / den / 2 ^ e + 1 / 2) * 2 ^ e := by
            apply mul_le_mul_of_nonneg_right _ hpow.le
            linarith
        _ = num / den + 2 ^ e / 2 := by rw [add_mul, hscaled]; ring
        _ ≤ 2 * (num / den) + 1 := by linarith
    by_cases hcarry : m = Nat.pow 2 53
    · rw [if_pos hcarry]
      dsimp only
      rw [if_neg (by omega)]
      refine ⟨_, _, rfl, ?_⟩
      have hcarried : ((Nat.pow 2 52 : Nat) : ℚ) * 2 ^ (e + 1) = m * 2 ^ e := by
        rw [hcarry, zpow_add_one₀ (by norm_num), Nat.pow_eq, Nat.pow_eq]
        push_cast
        ring
      rw [hcarried]
      exact hvalue
    · rw [if_neg hcarry]
      dsimp only
      rw [if_neg (by omega)]
      exact ⟨_, _, rfl, hvalue⟩

/-- The difference of two numbers that are not too large is finite and not too large. -/
theorem exists_sub_eq {s t : Bool} {m k : Nat} {e f : Int}
    (hx : |valueOf (.finite t k f)| ≤ 2 ^ 64) (hy : |valueOf (.finite s m e)| ≤ 2 ^ 64) :
    ∃ negative m' e', sub (.finite s m e) (.finite t k f) = .finite negative m' e' ∧
      (m' * 2 ^ e' : ℚ) ≤ 2 ^ 67 := by
  rw [sub_finite]
  split_ifs with hn
  · exact ⟨_, 0, -1074, rfl, by norm_num⟩
  · have hpos : (0 : ℚ) < (ratio m e).2 * (ratio k f).2 := by
      exact_mod_cast product_pos m e k f
    have hbound : |(numerator s m e t k f : ℚ) / ((ratio m e).2 * (ratio k f).2)| ≤ 2 ^ 65 := by
      have htri := abs_sub (valueOf (.finite s m e)) (valueOf (.finite t k f))
      rw [numerator_div]
      linarith
    rw [abs_div, abs_of_pos hpos] at hbound
    have hquot : ((numerator s m e t k f).natAbs / ((ratio m e).2 * (ratio k f).2 : Nat) : ℚ) ≤
        2 ^ 65 := by
      rw [Nat.cast_natAbs, Int.cast_abs]
      push_cast
      exact hbound
    obtain ⟨m', e', heq, hle⟩ := exists_ofRatio_eq (numerator s m e t k f < 0)
      (product_pos m e k f) (hquot.trans (by norm_num))
    exact ⟨_, m', e', heq, by linarith⟩

/-- So is the product of such a number with a thousand. -/
theorem isFinite_scale_thousand (negative : Bool) {m : Nat} {e : Int}
    (h : (m * 2 ^ e : ℚ) ≤ 2 ^ 67) : IsFinite (scale 1000 (.finite negative m e)) := by
  have hscaled : (((ratio m e).1 * 1000 : Nat) / (ratio m e).2 : ℚ) ≤ 2 ^ 100 := by
    rw [Nat.cast_mul, mul_div_right_comm, ratio_eq]
    push_cast
    linarith
  obtain ⟨m', e', heq, -⟩ := exists_ofRatio_eq negative (ratio_den_pos m e) hscaled
  rw [scale]
  dsimp only
  rw [heq]
  trivial

/-- **From the readings of a clock the time is computed as a finite number.** -/
theorem finite_scale_sub (hx : IsReading x) (hy : IsReading y) :
    IsFinite ((y.sub x).scale 1000) := by
  cases y with
  | infinite s => exact hy.finite.elim
  | notANumber => exact hy.finite.elim
  | finite s m e =>
    cases x with
    | infinite t => exact hx.finite.elim
    | notANumber => exact hx.finite.elim
    | finite t k f =>
      obtain ⟨negative, m', e', hsub, hle⟩ := exists_sub_eq hx.bounded hy.bounded
      rw [hsub]
      exact isFinite_scale_thousand negative hle

/-! ### Times -/

/-- **The time between two readings**, in whole milliseconds. -/
structure Timed (start stop : Number) (millis : Int) : Prop where
  /-- It is no less than zero. -/
  nonneg : 0 ≤ millis
  /-- It is the difference in milliseconds, rounded, unless that is less. -/
  eq_max : millis = max 0 ((stop.sub start).scale 1000).round
  /-- A timer that runs backwards took none. -/
  backwards : ∀ x y, start = .float x → stop = .float y → valueOf y ≤ valueOf x → millis = 0
  /-- The number that is rounded is finite if the readings are those of a clock. -/
  finite : ∀ x y, start = .float x → stop = .float y → IsReading x → IsReading y →
    ∃ z, (stop.sub start).scale 1000 = .float z ∧ IsFinite z

theorem timed_elapsedMillis (start stop : Number) : Timed start stop (elapsedMillis start stop) where
  nonneg := Int.natCast_nonneg _
  eq_max := by rw [elapsedMillis, Int.toNat_eq_max, max_comm]
  backwards := by
    rintro x y rfl rfl h
    rw [elapsedMillis_eq_zero h]
    rfl
  finite := by
    rintro x y rfl rfl hx hy
    exact ⟨_, rfl, finite_scale_sub hx hy⟩

end CmdletShell.Proofs.Numbers.Elapsed
