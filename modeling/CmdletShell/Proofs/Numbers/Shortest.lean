import CmdletShell.Proofs.Numbers.Rounding

/-!
# Shortest digits are read back

`readsBack` decides the interval of a number (`within_of_readsBack`). With seventeen digits the
nearest decimal number lies within it, so that `shortest` ends with digits that are read back
(`shortest_within`).
-/

namespace CmdletShell.Proofs.Numbers.Shortest

open CmdletShell.Binary64
open CmdletShell.Proofs.Numbers.Rounding

variable {num den mantissa : Nat} {exponent : Int}

/-! ### The interval, decided -/

theorem ratio_den_eq (m k : Nat) (exponent : Int) :
    (ratio m exponent).2 = (ratio k exponent).2 := by
  cases exponent <;> rfl

/-- Fourths of the last place. -/
theorem quarters (n : Nat) : (n : ℚ) * 2 ^ (exponent - 2) = n / 4 * 2 ^ exponent := by
  rw [zpow_sub₀ (by norm_num)]
  norm_num
  ring

theorem ratio_le_iff (n : Nat) (hd : 0 < den) :
    (ratio n (exponent - 2)).1 * den ≤ num * (ratio n (exponent - 2)).2 ↔
      (n / 4 : ℚ) ≤ (num / den : ℚ) / 2 ^ exponent := by
  have hd' : (0 : ℚ) < den := by exact_mod_cast hd
  have hr : (0 : ℚ) < (ratio n (exponent - 2)).2 := by
    exact_mod_cast ratio_den_pos n (exponent - 2)
  rw [le_div_iff₀ (by positivity), ← quarters, ← ratio_eq, div_le_div_iff₀ hr hd']
  norm_cast

theorem le_ratio_iff (n : Nat) (hd : 0 < den) :
    num * (ratio n (exponent - 2)).2 ≤ (ratio n (exponent - 2)).1 * den ↔
      (num / den : ℚ) / 2 ^ exponent ≤ n / 4 := by
  have hd' : (0 : ℚ) < den := by exact_mod_cast hd
  have hr : (0 : ℚ) < (ratio n (exponent - 2)).2 := by
    exact_mod_cast ratio_den_pos n (exponent - 2)
  rw [div_le_iff₀ (by positivity), ← quarters, ← ratio_eq, div_le_div_iff₀ hd' hr]
  norm_cast

/-- The fourths of the last place down to the lower end of the interval. -/
def belowGap (mantissa : Nat) (exponent : Int) : Nat :=
  if mantissa = 2 ^ 52 ∧ -1074 < exponent then 1 else 2

theorem quarterGaps_eq (mantissa : Nat) (exponent : Int) :
    quarterGaps mantissa exponent = (belowGap mantissa exponent, 2) := by
  unfold quarterGaps belowGap
  rw [Nat.pow_eq]
  split_ifs <;> rfl

/-- **`readsBack` tells whether a fraction lies between half the ways to the neighbours**, these
included if the mantissa is even. -/
theorem readsBack_iff (hm : 0 < mantissa) (hd : 0 < den) :
    readsBack mantissa exponent num den = true ↔
      if mantissa % 2 = 0 then
        (mantissa - belowGap mantissa exponent / 4 : ℚ) ≤ (num / den : ℚ) / 2 ^ exponent ∧
          (num / den : ℚ) / 2 ^ exponent ≤ mantissa + 1 / 2
      else
        (mantissa - belowGap mantissa exponent / 4 : ℚ) < (num / den : ℚ) / 2 ^ exponent ∧
          (num / den : ℚ) / 2 ^ exponent < mantissa + 1 / 2 := by
  have hgap : belowGap mantissa exponent ≤ 2 := by unfold belowGap; split_ifs <;> omega
  have hlow : ((4 * mantissa - belowGap mantissa exponent : Nat) / 4 : ℚ) =
      mantissa - belowGap mantissa exponent / 4 := by
    rw [Nat.cast_sub (by omega)]
    push_cast
    ring
  have hhigh : ((4 * mantissa + 2 : Nat) / 4 : ℚ) = mantissa + 1 / 2 := by
    push_cast
    ring
  have hle := @ratio_le_iff num den exponent (4 * mantissa - belowGap mantissa exponent) hd
  have hge := @le_ratio_iff num den exponent (4 * mantissa + 2) hd
  have hlt := not_congr
    (@le_ratio_iff num den exponent (4 * mantissa - belowGap mantissa exponent) hd)
  have hgt := not_congr (@ratio_le_iff num den exponent (4 * mantissa + 2) hd)
  rw [not_le, not_le] at hlt hgt
  rw [ratio_den_eq (4 * mantissa + 2) (4 * mantissa - belowGap mantissa exponent)] at hge hgt
  rw [hlow] at hle hlt
  rw [hhigh] at hge hgt
  unfold readsBack
  rw [quarterGaps_eq]
  dsimp only
  split_ifs with hp
  · rw [Bool.and_eq_true, decide_eq_true_eq, decide_eq_true_eq, hle, hge]
  · rw [Bool.and_eq_true, decide_eq_true_eq, decide_eq_true_eq, hlt, hgt]

/-- **What reads back lies within the interval.** -/
theorem within_of_readsBack (hm : 0 < mantissa) (hd : 0 < den)
    (h : readsBack mantissa exponent num den = true) : Within mantissa exponent (num / den) := by
  rw [readsBack_iff hm hd] at h
  have hgap : (belowGap mantissa exponent : ℚ) ≤ 2 := by
    have : belowGap mantissa exponent ≤ 2 := by unfold belowGap; split_ifs <;> omega
    exact_mod_cast this
  constructor
  · split_ifs at h with hp
    · exact Or.inr ⟨hp, by linarith, h.2⟩
    · exact Or.inl ⟨by linarith, h.2⟩
  · intro hmeq he
    have hone : belowGap mantissa exponent = 1 := if_pos ⟨hmeq, he⟩
    rw [if_pos (by rw [hmeq]; rfl), hone] at h
    simpa using h.1

/-- What lies closer to a number than the ends of its interval reads back. -/
theorem readsBack_of_lt (hm : 0 < mantissa) (hd : 0 < den)
    (hl : (mantissa - belowGap mantissa exponent / 4 : ℚ) < (num / den : ℚ) / 2 ^ exponent)
    (hu : (num / den : ℚ) / 2 ^ exponent < mantissa + 1 / 2) :
    readsBack mantissa exponent num den = true := by
  rw [readsBack_iff hm hd]
  split_ifs
  · exact ⟨hl.le, hu.le⟩
  · exact ⟨hl, hu⟩

/-! ### Seventeen digits -/

/-- The number is at least the power of ten below its magnitude. -/
theorem le_of_magnitude (hn : 0 < num) (hd : 0 < den) :
    (10 : ℚ) ^ (magnitude num den - 1) ≤ num / den := by
  have hd' : (0 : ℚ) < den := by exact_mod_cast hd
  obtain ⟨hnl, -⟩ := between_powers_ten hn
  obtain ⟨-, hdu⟩ := between_powers_ten hd
  have hnpos : 0 < (Nat.toDigits 10 num).length := Nat.length_toDigits_pos
  unfold magnitude
  dsimp only
  generalize (Nat.toDigits 10 num).length = a at hnl hnpos ⊢
  generalize (Nat.toDigits 10 den).length = b at hdu ⊢
  split_ifs with hfits
  · rw [le_div_iff₀ hd']
    have hnl' : (10 : ℚ) ^ ((a - 1 : Nat) : Int) ≤ num := by exact_mod_cast hnl
    have hdu' : (den : ℚ) ≤ 10 ^ (b : Int) := by exact_mod_cast hdu.le
    calc (10 : ℚ) ^ ((a : Int) - b - 1) * den ≤ 10 ^ ((a : Int) - b - 1) * 10 ^ (b : Int) := by
          gcongr
      _ = 10 ^ ((a - 1 : Nat) : Int) := by
          rw [← zpow_add₀ (by norm_num)]
          congr 1
          omega
      _ ≤ num := hnl'
  · rw [le_div_iff₀ hd', add_sub_cancel_right]
    generalize (a : Int) - b = k at hfits ⊢
    cases k with
    | ofNat k =>
      have hle : den * Nat.pow 10 k ≤ num := by simpa using hfits
      rw [Nat.pow_eq] at hle
      rw [Int.ofNat_eq_natCast, zpow_natCast, mul_comm]
      exact_mod_cast hle
    | negSucc k =>
      have hle : den ≤ num * Nat.pow 10 (k + 1) := by simpa using hfits
      rw [Nat.pow_eq] at hle
      rw [zpow_negSucc, inv_mul_le_iff₀ (by positivity), mul_comm]
      exact_mod_cast hle

theorem ratio_num_pos (hm : 0 < mantissa) (exponent : Int) : 0 < (ratio mantissa exponent).1 := by
  cases exponent with
  | ofNat e => simp only [ratio, Nat.pow_eq]; positivity
  | negSucc e => exact hm

theorem decimalRatio_num_pos (place : Int) : 0 < (decimalRatio 1 place).1 := by
  cases place <;> simp [decimalRatio]

/-- The number of steps that is nearest to a number on the grid of step `10 ^ place`. -/
def nearestOn (mantissa : Nat) (exponent place : Int) : Nat :=
  roundDiv ((ratio mantissa exponent).1 * (decimalRatio 1 place).2)
    ((ratio mantissa exponent).2 * (decimalRatio 1 place).1)

theorem nearest_nearestOn (mantissa : Nat) (exponent place : Int) :
    Nearest (nearestOn mantissa exponent place) (mantissa * 2 ^ exponent / 10 ^ place) := by
  have hden := ratio_den_pos mantissa exponent
  have hstep := decimalRatio_num_pos place
  have hn := nearest_roundDiv ((ratio mantissa exponent).1 * (decimalRatio 1 place).2)
    (Nat.mul_pos hden hstep)
  have hten := decimalRatio_eq 1 place
  rw [Nat.cast_one, one_mul] at hten
  have hq : (mantissa * 2 ^ exponent / 10 ^ place : ℚ) =
      ((ratio mantissa exponent).1 * (decimalRatio 1 place).2 : Nat) /
        ((ratio mantissa exponent).2 * (decimalRatio 1 place).1 : Nat) := by
    rw [← ratio_eq, ← hten, div_div_div_eq]
    push_cast
    rfl
  rw [hq]
  exact hn

/-- **On a grid of seventeen digits the nearest number reads back.** -/
theorem readsBack_nearestOn {place : Int} (hc : Canonical mantissa exponent) (hm : 0 < mantissa)
    (hp : (10 : ℚ) ^ (place + 16) ≤ mantissa * 2 ^ exponent) :
    readsBack mantissa exponent (decimalRatio (nearestOn mantissa exponent place) place).1
      (decimalRatio (nearestOn mantissa exponent place) place).2 = true := by
  obtain ⟨hl, hu⟩ := (nearest_nearestOn mantissa exponent place).bounds
  generalize nearestOn mantissa exponent place = n at hl hu ⊢
  have hpow : (0 : ℚ) < 2 ^ exponent := by positivity
  have hten : (0 : ℚ) < 10 ^ place := by positivity
  have hmlt : (mantissa : ℚ) + 1 ≤ 2 ^ 53 := by exact_mod_cast hc.mantissa_lt
  -- all distances in last places of the number
  obtain ⟨t, ht⟩ : ∃ t : ℚ, t = 10 ^ place / 2 ^ exponent := ⟨_, rfl⟩
  have htpos : 0 < t := by rw [ht]; positivity
  have hq : (mantissa * 2 ^ exponent / 10 ^ place : ℚ) = mantissa / t := by
    rw [ht]
    field_simp
  rw [hq, le_div_iff₀ htpos] at hl
  rw [hq, div_le_iff₀ htpos] at hu
  have hstep : t * 10 ^ 16 ≤ mantissa := by
    rw [zpow_add₀ (by norm_num), ← div_le_iff₀ hpow] at hp
    rw [ht, div_mul_eq_mul_div]
    exact_mod_cast hp
  have hy : ((decimalRatio n place).1 / (decimalRatio n place).2 : ℚ) / 2 ^ exponent = n * t := by
    rw [decimalRatio_eq, ht]
    ring
  refine readsBack_of_lt hm (decimalRatio_den_pos n place) ?_ ?_
  · rw [hy]
    unfold belowGap
    split_ifs with hb
    · have hmeq : (mantissa : ℚ) = 2 ^ 52 := by exact_mod_cast hb.1
      rw [hmeq] at hstep hu ⊢
      norm_num at hstep hu ⊢
      linarith
    · norm_num
      linarith
  · rw [hy]
    linarith

theorem isSome_onGrid? {place : Int} (hc : Canonical mantissa exponent) (hm : 0 < mantissa)
    (hp : (10 : ℚ) ^ (place + 16) ≤ mantissa * 2 ^ exponent) :
    (onGrid? mantissa exponent place).isSome = true := by
  unfold onGrid?
  dsimp only
  rw [List.find?_isSome]
  exact ⟨nearestOn mantissa exponent place, by simp [nearestOn], readsBack_nearestOn hc hm hp⟩

/-! ### The digits -/

theorem readsBack_of_onGrid? {place : Int} {n : Nat}
    (h : onGrid? mantissa exponent place = some n) :
    readsBack mantissa exponent (decimalRatio n place).1 (decimalRatio n place).2 = true := by
  unfold onGrid? at h
  have hn := List.find?_some h
  exact hn

/-- The search ends with digits that read back, if it comes to any. -/
theorem readsBack_shortestFrom {top : Int} : ∀ {fuel count last : Nat},
    count ≤ last → last < count + fuel → (onGrid? mantissa exponent (top - last)).isSome = true →
    readsBack mantissa exponent
      (decimalRatio (shortestFrom mantissa exponent top fuel count).1
        (shortestFrom mantissa exponent top fuel count).2).1
      (decimalRatio (shortestFrom mantissa exponent top fuel count).1
        (shortestFrom mantissa exponent top fuel count).2).2 = true
  | 0, _, _, hle, hlt, _ => by omega
  | fuel + 1, count, last, hle, hlt, hs => by
    unfold shortestFrom
    cases hg : onGrid? mantissa exponent (top - count) with
    | some n => exact readsBack_of_onGrid? hg
    | none =>
      have hne : count ≠ last := by
        rintro rfl
        rw [hg] at hs
        cases hs
      exact readsBack_shortestFrom (by omega) (by omega) hs

/-- **The shortest digits lie within the interval of the number.** -/
theorem shortest_within (hc : Canonical mantissa exponent) (hm : 0 < mantissa) :
    Within mantissa exponent
      ((shortest mantissa exponent).1 * 10 ^ (shortest mantissa exponent).2) := by
  have hp := le_of_magnitude (ratio_num_pos hm exponent) (ratio_den_pos mantissa exponent)
  rw [ratio_eq] at hp
  generalize htop : magnitude (ratio mantissa exponent).1 (ratio mantissa exponent).2 = top at hp
  have hsome : (onGrid? mantissa exponent (top - (17 : Nat))).isSome = true := by
    refine isSome_onGrid? hc hm ?_
    have hplace : top - (17 : Nat) + 16 = top - 1 := by push_cast; ring
    rwa [hplace]
  have hback := @readsBack_shortestFrom mantissa exponent top 17 1 17 (by norm_num) (by norm_num)
    hsome
  rw [← htop] at hback
  have hw := within_of_readsBack hm (decimalRatio_den_pos _ _) hback
  rw [decimalRatio_eq] at hw
  exact hw

end CmdletShell.Proofs.Numbers.Shortest
