import CmdletShell.Text.Blank
import Mathlib.Data.List.DropRight

/-!
# Trimming

A trimmed text is a part of the text that neither begins nor ends with a character that is trimmed
(`trim_isInfix`, `trim_ends`). A text with such ends is not changed (`trim_eq_self`), so trimming
twice is trimming once (`strip_strip`).

`includes part text` says that `part` is an infix of `text` (`includes_iff`).
-/

namespace CmdletShell.Proofs.Lines.Strip

open CmdletShell.Text

variable {p : Char → Bool} {text : Text}

/-- Neither the first nor the last character satisfies `p`. -/
def HasEnds (p : Char → Bool) (text : Text) : Prop :=
  (∀ c ∈ text.head?, p c = false) ∧ ∀ c ∈ text.getLast?, p c = false

instance (p : Char → Bool) (text : Text) : Decidable (HasEnds p text) :=
  decidable_of_iff (text.head?.any p = false ∧ text.getLast?.any p = false)
    (and_congr (Option.any_eq_false p text.head?) (Option.any_eq_false p text.getLast?))

theorem forall_iff_any : (∀ c ∈ text, p c = false) ↔ text.any p = false := by
  rw [List.any_eq_false]
  exact forall₂_congr fun c _ => Bool.eq_false_iff

theorem trim_eq (p : Char → Bool) (text : Text) : trim p text = (text.dropWhile p).rdropWhile p :=
  rfl

theorem trim_isInfix (p : Char → Bool) (text : Text) : trim p text <:+: text := by
  have hl : text.dropWhile p <:+ text := List.dropWhile_suffix p
  have hr : (text.dropWhile p).rdropWhile p <+: text.dropWhile p := List.rdropWhile_prefix p _
  exact hr.isInfix.trans hl.isInfix

theorem trim_ends (p : Char → Bool) (text : Text) : HasEnds p (trim p text) := by
  rw [trim_eq]
  constructor
  · intro c hc
    -- the first character is that of `text.dropWhile p`, of which the trimmed text is a prefix
    have hpre := List.rdropWhile_prefix p (text.dropWhile p)
    obtain ⟨rest, hrest⟩ := List.head?_eq_some_iff.mp (Option.mem_def.mp hc)
    have hd : (text.dropWhile p).head? = some c := by
      obtain ⟨tail, htail⟩ := hpre
      rw [← htail, hrest]; rfl
    have hne : text.dropWhile p ≠ [] := by
      intro h; rw [h] at hd; simp at hd
    have hnot := List.head_dropWhile_not p hne
    rwa [(List.head_eq_iff_head?_eq_some hne).mpr hd] at hnot
  · intro c hc
    have hne : (text.dropWhile p).rdropWhile p ≠ [] := by
      intro h; rw [h] at hc; simp at hc
    have hnot := List.rdropWhile_last_not p _ hne
    rw [Option.mem_def, List.getLast?_eq_some_getLast hne, Option.some.injEq] at hc
    simpa [hc] using hnot

theorem rdropWhile_eq_self (h : HasEnds p text) : text.rdropWhile p = text := by
  rw [List.rdropWhile_eq_self_iff]
  intro hne
  have hlast := h.2 (text.getLast hne) (List.getLast?_eq_some_getLast hne)
  simpa using hlast

theorem trim_eq_self (h : HasEnds p text) : trim p text = text := by
  have hl : text.dropWhile p = text := by
    rw [List.dropWhile_eq_self_iff]
    intro hpos
    have hne : text ≠ [] := List.length_pos_iff.mp hpos
    have := h.1 (text.head hne) (List.head?_eq_some_head hne)
    simpa [List.head_eq_getElem] using this
  rw [trim_eq, hl, rdropWhile_eq_self h]

theorem trim_eq_self_iff : trim p text = text ↔ HasEnds p text := by
  refine ⟨fun h => ?_, trim_eq_self⟩
  rw [← h]
  exact trim_ends p text

/-- What is trimmed off stands around the trimmed text. -/
theorem exists_trim (p : Char → Bool) (text : Text) :
    ∃ before after, text = before ++ (trim p text ++ after) ∧
      (∀ c ∈ before, p c = true) ∧ ∀ c ∈ after, p c = true := by
  refine ⟨text.takeWhile p, (text.dropWhile p).rtakeWhile p, ?_,
    fun c hc => List.mem_takeWhile_imp hc, fun c hc => List.mem_rtakeWhile_imp hc⟩
  rw [trim_eq, List.rdropWhile_append_rtakeWhile, List.takeWhile_append_dropWhile]

/-- A text with such ends comes back when what stands around it is trimmed off. -/
theorem trim_around {before after : Text} (hb : ∀ c ∈ before, p c = true)
    (ha : ∀ c ∈ after, p c = true) (hne : text ≠ []) (h : HasEnds p text) :
    trim p (before ++ (text ++ after)) = text := by
  have hl : (before ++ (text ++ after)).dropWhile p = text ++ after := by
    obtain ⟨c, rest, rfl⟩ := List.exists_cons_of_ne_nil hne
    rw [List.dropWhile_append_of_pos hb, List.cons_append]
    exact List.dropWhile_cons_of_neg (by rw [h.1 c rfl]; exact Bool.false_ne_true)
  have hr : (text ++ after).rdropWhile p = text.rdropWhile p := by
    rw [List.rdropWhile, List.reverse_append,
      List.dropWhile_append_of_pos fun c hc => ha c (List.mem_reverse.mp hc), ← List.rdropWhile]
  rw [trim_eq, hl, hr, rdropWhile_eq_self h]

@[simp] theorem strip_strip (text : Text) : strip (strip text) = strip text :=
  trim_eq_self (trim_ends isBlank text)

/-- Nothing is left of white space only. -/
theorem strip_eq_nil_iff : strip text = [] ↔ ∀ c ∈ text, isBlank c = true := by
  constructor
  · intro h
    have hall : ∀ c ∈ text.dropWhile isBlank, isBlank c = true := List.rdropWhile_eq_nil_iff.mp h
    by_cases hd : text.dropWhile isBlank = []
    · exact List.dropWhile_eq_nil_iff.mp hd
    · have hfalse := List.head_dropWhile_not isBlank hd
      rw [hall _ (List.head_mem hd)] at hfalse
      cases hfalse
  · intro h
    have hd : text.dropWhile isBlank = [] := List.dropWhile_eq_nil_iff.mpr h
    rw [strip, trim_eq, hd, List.rdropWhile_nil]

theorem strip_isInfix (text : Text) : strip text <:+: text := trim_isInfix isBlank text

/-! ### Parts -/

theorem includes_iff {part text : Text} : includes part text = true ↔ part <:+: text := by
  induction text with
  | nil => simp [includes, List.isPrefixOf_iff_prefix]
  | cons c text ih =>
    rw [includes, Bool.or_eq_true, List.isPrefixOf_iff_prefix, ih, List.infix_cons_iff]

/-- What a part of a text includes the text includes. -/
theorem includes_of_isInfix {part piece text : Text} (h : piece <:+: text)
    (hp : includes part piece = true) : includes part text = true :=
  includes_iff.mpr ((includes_iff.mp hp).trans h)

/-- A prefix of a text that begins with another character is empty. -/
theorem eq_nil_of_isPrefix_cons {part rest : Text} {c : Char} (hc : c ∉ part)
    (h : part <+: c :: rest) : part = [] := by
  cases part with
  | nil => rfl
  | cons d part =>
    obtain ⟨rfl, -⟩ := List.cons_prefix_cons.mp h
    exact absurd List.mem_cons_self hc

/-- A part without a character lies before it or after it. -/
theorem isInfix_append_cons {part before after : Text} {c : Char} (hc : c ∉ part) :
    part <:+: before ++ c :: after ↔ part <:+: before ∨ part <:+: after := by
  constructor
  · intro h
    rcases List.infix_append_iff.mp h with h | h | ⟨left, right, rfl, hl, hr⟩
    · exact Or.inl h
    · rcases List.infix_cons_iff.mp h with h | h
      · rw [eq_nil_of_isPrefix_cons hc h]
        exact Or.inl List.nil_infix
      · exact Or.inr h
    · rw [eq_nil_of_isPrefix_cons (fun h => hc (List.mem_append_right _ h)) hr, List.append_nil]
      exact Or.inl hl.isInfix
  · rintro (h | h)
    · exact h.trans (List.prefix_append _ _).isInfix
    · have hs : after <:+ before ++ c :: after :=
        (List.suffix_cons c after).trans (List.suffix_append _ _)
      exact h.trans hs.isInfix

end CmdletShell.Proofs.Lines.Strip
