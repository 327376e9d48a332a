import CmdletShell.Text.Case
import Mathlib.Data.List.Basic

/-!
# Lower case by characters

The lower case of a text is read off its characters one by one (`lower_eq`), and but for two of
them, which `Plain` texts do not have, without regard to their neighbours (`lower_append`). A text
whose lower case is ASCII is plain (`plain_of_lower`).

No character but the dash becomes a dash (`head?_lower_eq_dash`), and none but the line break is
folded to a line break (`foldCase_eq_newline`). Lower case is its own lower case
(`lower_lower`): what the table makes of a character lies in none of its runs (`images_miss`).
-/

namespace CmdletShell.Proofs.Texts.Case

open CmdletShell.Text

variable {c : Char} {text rest : Text}

/-! ### Characters -/

/-- What holds of the first 128 code points holds of every ASCII character. -/
theorem forall_ascii {P : Char → Prop} (h : ∀ n < 128, P (Char.ofNat n)) (c : Char)
    (hc : c.toNat < 128) : P c := by
  have hp := h c.toNat hc
  rwa [Char.ofNat_toNat] at hp

theorem eq_toNat_of_ofNat_eq {n : Nat} {d : Char} (hd : d.toNat ≠ 0) (h : Char.ofNat n = d) :
    n = d.toNat := by
  by_cases hv : n.isValidChar
  · rw [Char.ofNat, dif_pos hv] at h
    exact congrArg Char.toNat h
  · rw [Char.ofNat, dif_neg hv] at h
    exact absurd (congrArg Char.toNat h).symm hd

/-- No run of the table leads to the code point. -/
def Missed (n : Nat) : Prop :=
  ∀ run ∈ lowerRuns, ¬ ((run.1 : Int) + run.2.2.2 ≤ n ∧ (n : Int) ≤ run.2.1 + run.2.2.2)

instance (n : Nat) : Decidable (Missed n) :=
  List.decidableBAll _ lowerRuns

/-- A character to which neither ASCII nor the table leads is no lower case but its own. -/
theorem eq_of_lowerChar_eq {d : Char} (hd : d.toNat ≠ 0)
    (hascii : ∀ n < 128, (Char.ofNat n).toLower = d → Char.ofNat n = d) (hmiss : Missed d.toNat)
    (h : lowerChar c = d) : c = d := by
  unfold lowerChar at h
  split_ifs at h with hc
  · exact forall_ascii (P := fun c => c.toLower = d → c = d) hascii c hc h
  · unfold mapRuns at h
    dsimp only at h
    split at h
    · next first last step shift hf =>
      have hin := List.find?_some hf
      have hrun := hmiss _ (List.mem_of_find?_eq_some hf)
      have hn := eq_toNat_of_ofNat_eq hd h
      simp only [Bool.and_eq_true, decide_eq_true_eq] at hin
      dsimp only at hrun
      omega
    · exact h

theorem lowerChar_eq_dash : lowerChar c = '-' ↔ c = '-' := by
  refine ⟨eq_of_lowerChar_eq (by decide) (by decide) (by decide +kernel), ?_⟩
  rintro rfl
  decide

/-- **Only a line break differs from a line break in case at most.** -/
theorem foldCase_eq_newline : foldCase c = '\n' ↔ c = '\n' := by
  refine ⟨fun h => ?_, by rintro rfl; decide⟩
  have htwins : ∀ twin ∈ caseTwins, twin.2 ≠ ('\n').toNat := by decide
  unfold foldCase at h
  split_ifs at h
  · cases h
  · dsimp only at h
    split at h
    · next low twin hf =>
      exact absurd (eq_toNat_of_ofNat_eq (by decide) h) (htwins _ (List.mem_of_find?_eq_some hf))
    · exact eq_of_lowerChar_eq (by decide) (by decide) (by decide +kernel) h

theorem toNat_lt_of_isAlpha (h : c.isAlpha = true) : c.toNat < 128 := by
  rcases Bool.or_eq_true_iff.mp h with hupper | hlower
  · have hrange : 'A'.val ≤ c.val ∧ c.val ≤ 'Z'.val := of_decide_eq_true hupper
    have hle : c.toNat ≤ 90 := hrange.2
    omega
  · have hrange : (decide ('a'.val ≤ c.val) && decide (c.val ≤ 'z'.val)) = true := hlower
    have hle : c.toNat ≤ 122 := of_decide_eq_true (Bool.and_eq_true_iff.mp hrange).2
    omega

theorem lowerChar_isAlpha (h : c.isAlpha = true) : (lowerChar c).isAlpha = true := by
  have hascii : ∀ n < 128, (Char.ofNat n).isAlpha = true →
      (lowerChar (Char.ofNat n)).isAlpha = true := by decide
  exact forall_ascii (P := fun c => c.isAlpha = true → (lowerChar c).isAlpha = true) hascii c
    (toNat_lt_of_isAlpha h) h

/-! ### Texts -/

/-- The text has none of the characters whose lower case is no single character or depends on the
neighbours. -/
def Plain (text : Text) : Prop := ∀ c ∈ text, c ≠ 'İ' ∧ c ≠ 'Σ'

theorem lowerAt_of_ne (hi : c ≠ 'İ') (hs : c ≠ 'Σ') (afterCased : Bool) (rest : Text) :
    lowerAt afterCased c rest = [lowerChar c] := by
  rw [lowerAt, if_neg hi, if_neg hs]

theorem lowerAt_sigma (afterCased : Bool) (rest : Text) :
    ∃ sigma, lowerAt afterCased 'Σ' rest = [sigma] ∧ 128 ≤ sigma.toNat := by
  rw [lowerAt, if_neg (by decide), if_pos rfl]
  split_ifs
  · exact ⟨'ς', rfl, by decide⟩
  · exact ⟨'σ', rfl, by decide⟩

theorem lowerFrom_append : ∀ {text : Text}, Plain text → ∀ (afterCased : Bool) (rest : Text),
    ∃ cased, lowerFrom afterCased (text ++ rest) = text.map lowerChar ++ lowerFrom cased rest
  | [], _, afterCased, rest => ⟨afterCased, rfl⟩
  | c :: text, h, afterCased, rest => by
    obtain ⟨hi, hs⟩ := h c List.mem_cons_self
    obtain ⟨cased, ih⟩ := lowerFrom_append (fun d hd => h d (.tail _ hd))
      (if isCaseIgnorable c then afterCased else isCased c) rest
    refine ⟨cased, ?_⟩
    rw [List.cons_append, lowerFrom, lowerAt_of_ne hi hs, ih]
    rfl

theorem plain_of_ascii (h : ∀ c ∈ text, c.toNat < 128) : Plain text := by
  intro c hc
  have hlt := h c hc
  constructor
  · rintro rfl
    revert hlt
    decide
  · rintro rfl
    revert hlt
    decide

/-- **The lower case of a text is read off its characters.** -/
theorem lower_eq (text : Text) : lower text = lowerFrom false text := by
  unfold lower
  split_ifs with h
  · have hascii : ∀ c ∈ text, c.toNat < 128 := by simpa using h
    obtain ⟨cased, hmap⟩ := lowerFrom_append (plain_of_ascii hascii) false []
    rw [List.append_nil] at hmap
    rw [hmap, lowerFrom, List.append_nil]
  · rfl

theorem plain_of_lowerFrom : ∀ {text : Text} {afterCased : Bool},
    (∀ d ∈ lowerFrom afterCased text, d.toNat < 128) → Plain text
  | [], _, _ => by simp [Plain]
  | c :: text, afterCased, h => by
    rw [lowerFrom] at h
    have ih := plain_of_lowerFrom fun d hd => h d (List.mem_append_right _ hd)
    have hfirst : ∀ d ∈ lowerAt afterCased c text, d.toNat < 128 :=
      fun d hd => h d (List.mem_append_left _ hd)
    refine List.forall_mem_cons.mpr ⟨⟨?_, ?_⟩, ih⟩
    · rintro rfl
      have hdot := hfirst '\u0307' (by simp [lowerAt])
      revert hdot
      decide
    · rintro rfl
      obtain ⟨sigma, hs, hlarge⟩ := lowerAt_sigma afterCased text
      have hlt := hfirst sigma (by simp [hs])
      omega

theorem lower_of_plain (h : Plain text) : lower text = text.map lowerChar := by
  obtain ⟨cased, hmap⟩ := lowerFrom_append h false []
  rw [List.append_nil, lowerFrom, List.append_nil] at hmap
  rw [lower_eq, hmap]

theorem plain_of_lower (h : ∀ d ∈ lower text, d.toNat < 128) : Plain text := by
  rw [lower_eq] at h
  exact plain_of_lowerFrom h

/-- Nothing that follows a plain text changes its lower case. -/
theorem lower_append (h : Plain text) (rest : Text) :
    ∃ cased, lower (text ++ rest) = text.map lowerChar ++ lowerFrom cased rest := by
  rw [lower_eq]
  exact lowerFrom_append h false rest

/-! ### Dashes -/

/-- **No other character becomes a dash** at the start of a text. -/
theorem head?_lower_eq_dash : (lower text).head? = some '-' ↔ text.head? = some '-' := by
  rw [lower_eq]
  cases text with
  | nil => exact Iff.rfl
  | cons c text =>
    rw [lowerFrom, List.head?_cons, Option.some.injEq]
    by_cases hi : c = 'İ'
    · subst hi
      have hfirst : lowerAt false 'İ' text = ['i', '\u0307'] := if_pos rfl
      rw [hfirst, List.cons_append, List.head?_cons, Option.some.injEq]
      decide
    by_cases hs : c = 'Σ'
    · subst hs
      obtain ⟨sigma, hsigma, hlarge⟩ := lowerAt_sigma false text
      rw [hsigma, List.singleton_append, List.head?_cons, Option.some.injEq]
      refine iff_of_false ?_ (by decide)
      rintro rfl
      revert hlarge
      decide
    · rw [lowerAt_of_ne hi hs, List.singleton_append, List.head?_cons, Option.some.injEq]
      exact lowerChar_eq_dash

/-! ### Lower case twice -/

/-- A run of the table. -/
abbrev Run := Nat × Nat × Nat × Int

/-- The run holds the code point. -/
def InRun (run : Run) (n : Nat) : Prop :=
  run.1 ≤ n ∧ n ≤ run.2.1 ∧ (n - run.1) % run.2.2.1 = 0

/-- No code point from `low` to `high` lies in the run; where they overlap, only every second one
counts on either side. -/
def misses (low high step : Nat) (run : Run) : Bool :=
  Nat.blt high run.1 || Nat.blt run.2.1 low ||
    (Nat.beq run.2.2.1 2 && (Nat.beq step 2 || Nat.beq low high) && Nat.beq ((low + run.1) % 2) 1)

/-- The runs of the table, and the dotted capital I as one more. -/
def heldRuns : List Run := (304, 304, 1, 0) :: lowerRuns

/-- The images of the table lie in none of its runs. -/
theorem images_miss : ∀ run ∈ lowerRuns, Nat.blt 0 (run.1 + run.2.2.2).toNat &&
    heldRuns.all (misses (run.1 + run.2.2.2).toNat (run.2.1 + run.2.2.2).toNat run.2.2.1) := by
  decide +kernel

theorem not_inRun_image {run other : Run} {n : Nat} (hr : run ∈ lowerRuns) (ho : other ∈ heldRuns)
    (hn : InRun run n) : ¬ InRun other (n + run.2.2.2).toNat := by
  obtain ⟨hpos, hall⟩ := Bool.and_eq_true_iff.mp (images_miss run hr)
  have hmiss := List.all_eq_true.mp hall other ho
  unfold misses at hmiss
  unfold InRun at hn ⊢
  simp only [Bool.or_eq_true, Bool.and_eq_true, Nat.blt_eq, Nat.beq_eq] at hmiss hpos
  obtain ⟨hfirst, hlast, hstep⟩ := hn
  rintro ⟨hfirst', hlast', hstep'⟩
  rcases hmiss with (hmiss | hmiss) | ⟨⟨hother, htwo | hone⟩, hodd⟩
  · omega
  · omega
  · rw [hother] at hstep'
    rw [htwo] at hstep
    omega
  · rw [hother] at hstep'
    omega

/-- The character is its own lower case, and not the dotted capital I, which the table leaves
out. -/
def Fixed (c : Char) : Prop := lowerChar c = c ∧ c ≠ 'İ'

theorem fixed_of_ascii (h : c.toNat < 128) : Fixed (lowerChar c) := by
  have hascii : ∀ n < 128, lowerChar (lowerChar (Char.ofNat n)) = lowerChar (Char.ofNat n) ∧
      lowerChar (Char.ofNat n) ≠ 'İ' := by decide
  exact forall_ascii (P := fun c => Fixed (lowerChar c)) hascii c h

/-- Whether a run holds a number, as it is looked up. -/
def holds (n : Nat) (run : Run) : Bool :=
  run.1 ≤ n && n ≤ run.2.1 && (n - run.1) % run.2.2.1 == 0

theorem holds_iff {run : Run} {n : Nat} : holds n run = true ↔ InRun run n := by
  unfold holds InRun
  simp [and_assoc]

theorem mapRuns_of_none {runs : List Run} (h : runs.find? (holds c.toNat) = none) :
    mapRuns runs c = c := by
  unfold mapRuns
  dsimp only
  split
  · next hfind => cases h.symm.trans hfind
  · rfl

theorem mapRuns_of_some {runs : List Run} {run : Run}
    (h : runs.find? (holds c.toNat) = some run) :
    mapRuns runs c = Char.ofNat (c.toNat + run.2.2.2).toNat := by
  unfold mapRuns
  dsimp only
  split
  · next hfind =>
    cases h.symm.trans hfind
    rfl
  · next hfind => cases h.symm.trans hfind

theorem fixed_of_not_inRun (h : ∀ run ∈ heldRuns, ¬ InRun run c.toNat) : Fixed c := by
  refine ⟨?_, ?_⟩
  · unfold lowerChar
    split_ifs with hc
    · have hascii : ∀ n < 128, ¬ (65 ≤ n ∧ n ≤ 90) → (Char.ofNat n).toLower = Char.ofNat n := by
        decide
      have hupper : ¬ (65 ≤ c.toNat ∧ c.toNat ≤ 90) := by
        have hrun := h (65, 90, 1, 32) (by decide)
        unfold InRun at hrun
        simpa [Nat.mod_one] using hrun
      have hself := hascii c.toNat hc hupper
      rwa [Char.ofNat_toNat] at hself
    · refine mapRuns_of_none (List.find?_eq_none.mpr fun run hr => ?_)
      rw [holds_iff]
      exact h run (List.mem_cons_of_mem _ hr)
  · rintro rfl
    exact h (304, 304, 1, 0) (by simp [heldRuns]) (by unfold InRun; decide)

/-- What the table makes of a character is its own lower case. -/
theorem fixed_lowerChar (h : c ≠ 'İ') : Fixed (lowerChar c) := by
  by_cases hc : c.toNat < 128
  · exact fixed_of_ascii hc
  have hmap : lowerChar c = mapRuns lowerRuns c := if_neg hc
  cases hfind : lowerRuns.find? (holds c.toNat) with
  | none =>
    have hself : lowerChar c = c := hmap.trans (mapRuns_of_none hfind)
    rw [hself]
    exact ⟨hself, h⟩
  | some run =>
    have himage : lowerChar c = Char.ofNat (c.toNat + run.2.2.2).toNat :=
      hmap.trans (mapRuns_of_some hfind)
    have hin : InRun run c.toNat := holds_iff.mp (List.find?_some hfind)
    have hmiss : ∀ other ∈ heldRuns, ¬ InRun other (c.toNat + run.2.2.2).toNat :=
      fun other ho => not_inRun_image (List.mem_of_find?_eq_some hfind) ho hin
    rw [himage]
    by_cases hv : (c.toNat + run.2.2.2).toNat.isValidChar
    · refine fixed_of_not_inRun fun other ho => ?_
      rw [Char.ofNat, dif_pos hv]
      exact hmiss other ho
    · rw [Char.ofNat, dif_neg hv]
      exact ⟨by decide, by decide⟩

theorem fixed_lowerFrom : ∀ (text : Text) (afterCased : Bool),
    ∀ d ∈ lowerFrom afterCased text, Fixed d
  | [], _, d, hd => by cases hd
  | c :: text, afterCased, d, hd => by
    rw [lowerFrom] at hd
    rcases List.mem_append.mp hd with hd | hd
    · unfold lowerAt at hd
      split_ifs at hd with hi hs
      · rcases List.mem_cons.mp hd with rfl | hd
        · exact ⟨by decide, by decide⟩
        · rw [List.mem_singleton.mp hd]
          exact ⟨by decide, by decide⟩
      · rw [List.mem_singleton.mp hd]
        exact ⟨by decide, by decide⟩
      · rw [List.mem_singleton.mp hd]
        exact ⟨by decide, by decide⟩
      · rw [List.mem_singleton.mp hd]
        exact fixed_lowerChar hi
    · exact fixed_lowerFrom text _ d hd

theorem lower_of_fixed (h : ∀ d ∈ text, Fixed d) : lower text = text := by
  have hplain : Plain text := by
    intro c hc
    refine ⟨(h c hc).2, ?_⟩
    rintro rfl
    have hsigma := (h _ hc).1
    revert hsigma
    decide
  rw [lower_of_plain hplain]
  exact (List.map_congr_left fun d hd => (h d hd).1).trans (List.map_id' text)

/-- **Lower case is its own lower case.** -/
theorem lower_lower (text : Text) : lower (lower text) = lower text := by
  refine lower_of_fixed ?_
  rw [lower_eq text]
  exact fixed_lowerFrom text false

end CmdletShell.Proofs.Texts.Case
