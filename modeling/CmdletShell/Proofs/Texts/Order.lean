import CmdletShell.Text.Basic
import Mathlib.Data.Char
import Mathlib.Data.List.Lex

/-!
# The order of texts

Texts are compared as lists of code points (`le_iff`), so sorting puts them in that order
(`pairwise_sort`), and texts that differ in a strict one (`pairwise_sort_of_nodup`). Squeezing a
sorted list leaves each text once, and strictly increasing (`pairwise_sortUnique`).
-/

namespace CmdletShell.Proofs.Texts.Order

open CmdletShell.Text

variable {text : Text} {texts : List Text}

theorem le_iff : ∀ {a b : Text}, le a b = true ↔ a ≤ b
  | [], b => by
    have hlt : ¬ b < [] := List.not_lt_nil b
    simp [le, not_lt.mp hlt]
  | c :: a, [] => by
    have hlt : [] < c :: a := List.nil_lt_cons c a
    simp [le, hlt]
  | c :: a, d :: b => by
    rw [le, ← not_lt, List.cons_lt_cons_iff]
    by_cases h : c = d
    · subst h
      rw [if_pos rfl, le_iff, ← not_lt]
      simp
    · have hcd : c.toNat < d.toNat ↔ c < d := Iff.rfl
      rw [if_neg h, decide_eq_true_iff, hcd]
      simp only [Ne.symm h, false_and, or_false, not_lt]
      exact ⟨le_of_lt, fun hle => lt_of_le_of_ne hle h⟩

/-! ### Sorting -/

theorem mem_sort : text ∈ sort texts ↔ text ∈ texts := List.mem_mergeSort

theorem sort_perm (texts : List Text) : (sort texts).Perm texts := List.mergeSort_perm texts le

theorem pairwise_sort (texts : List Text) : (sort texts).Pairwise (· ≤ ·) := by
  have htrans : ∀ a b c : Text, le a b = true → le b c = true → le a c = true := by
    intro a b c hab hbc
    rw [le_iff] at hab hbc ⊢
    exact le_trans hab hbc
  have htotal : ∀ a b : Text, (le a b || le b a) = true := by
    intro a b
    rw [Bool.or_eq_true, le_iff, le_iff]
    exact le_total a b
  have hsorted := List.pairwise_mergeSort htrans htotal texts
  exact hsorted.imp le_iff.mp

/-- Texts that differ are strictly increasing when they are sorted. -/
theorem pairwise_sort_of_nodup (h : texts.Nodup) : (sort texts).Pairwise (· < ·) := by
  have hnodup : (sort texts).Nodup := (sort_perm texts).nodup_iff.mpr h
  exact ((pairwise_sort texts).and hnodup).imp fun hle => lt_of_le_of_ne hle.1 hle.2

/-! ### Each text once -/

theorem mem_squeeze : text ∈ squeeze texts ↔ text ∈ texts := by
  fun_induction squeeze texts with
  | case1 => exact Iff.rfl
  | case2 a => exact Iff.rfl
  | case3 a rest ih =>
    rw [ih, List.mem_cons, List.mem_cons, List.mem_cons]
    exact ⟨Or.inr, fun h => h.elim Or.inl id⟩
  | case4 a b rest hne ih => rw [List.mem_cons, ih, List.mem_cons (l := b :: rest)]

theorem pairwise_squeeze (h : texts.Pairwise (· ≤ ·)) : (squeeze texts).Pairwise (· < ·) := by
  fun_induction squeeze texts with
  | case1 => exact .nil
  | case2 a => exact List.pairwise_singleton _ a
  | case3 a rest ih => exact ih (List.pairwise_cons.mp h).2
  | case4 a b rest hne ih =>
    obtain ⟨ha, hrest⟩ := List.pairwise_cons.mp h
    have hb := (List.pairwise_cons.mp hrest).1
    have hlt : a < b := lt_of_le_of_ne (ha b List.mem_cons_self) hne
    refine List.pairwise_cons.mpr ⟨fun c hc => ?_, ih hrest⟩
    rcases List.mem_cons.mp (mem_squeeze.mp hc) with rfl | hc
    · exact hlt
    · exact lt_of_lt_of_le hlt (hb c hc)

theorem mem_sortUnique : text ∈ sortUnique texts ↔ text ∈ texts := mem_squeeze.trans mem_sort

/-- **Sorted texts, each once, are strictly increasing.** -/
theorem pairwise_sortUnique (texts : List Text) : (sortUnique texts).Pairwise (· < ·) :=
  pairwise_squeeze (pairwise_sort texts)

end CmdletShell.Proofs.Texts.Order
