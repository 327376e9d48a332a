import CmdletShell.Location
import Mathlib.Data.List.DropRight

/-!
# Segments of a path

Cutting a path at one separator cuts its segments in two (`segments_append_separator`). Everything
else about segments follows from that: separators at the ends do not count, so neither does trimming
them (`segments_trimEnd`, `segments_trim`), and a piece without separators is one segment
(`segments_of_not_mem`).

`path_cases` takes a path apart at its last separator, not counting those at its end, and says what
`dropLast` leaves of it.
-/

namespace CmdletShell.Proofs.Paths.Segments

open CmdletShell.Location

variable {c : Char} {path piece : Text}

/-! ### Pieces -/

theorem splitAt_eq_splitOn (c : Char) : ∀ text, Text.splitAt c text = text.splitOn c
  | [] => rfl
  | d :: text => by
    rw [Text.splitAt, splitAt_eq_splitOn c text, List.splitOn, List.splitOn,
      List.splitOnP_cons_eq_if_modifyHead]
    by_cases hd : d = c
    · rw [if_pos hd, if_pos (beq_iff_eq.mpr hd)]
    · rw [if_neg hd, if_neg (by simpa using hd)]
      cases hs : text.splitOnP (· == c) with
      | nil => exact absurd hs (List.splitOnP_ne_nil _ text)
      | cons piece pieces => rfl

theorem splitAt_append_cons (c : Char) (before after : Text) :
    Text.splitAt c (before ++ c :: after) = Text.splitAt c before ++ Text.splitAt c after := by
  rw [splitAt_eq_splitOn, splitAt_eq_splitOn, splitAt_eq_splitOn]
  exact List.splitOnP_append_cons before after (beq_self_eq_true c)

theorem splitAt_of_not_mem {text : Text} (h : c ∉ text) : Text.splitAt c text = [text] := by
  rw [splitAt_eq_splitOn, List.splitOn_eq_singleton h]

theorem joinWith_splitAt (c : Char) (text : Text) :
    Text.joinWith [c] (Text.splitAt c text) = text := by
  rw [splitAt_eq_splitOn]
  exact List.intercalate_splitOn c

/-! ### Segments -/

/-- **A separator cuts the segments in two.** -/
theorem segments_append_separator (before after : Text) :
    segments (before ++ separator :: after) = segments before ++ segments after := by
  rw [segments, splitAt_append_cons, List.filter_append]
  rfl

theorem segments_nil : segments [] = [] := rfl

theorem segments_separator_cons (path : Text) : segments (separator :: path) = segments path := by
  have h := segments_append_separator [] path
  rwa [List.nil_append, segments_nil, List.nil_append] at h

theorem segments_of_not_mem (h : separator ∉ piece) (hne : piece ≠ []) :
    segments piece = [piece] := by
  rw [segments, splitAt_of_not_mem h, List.filter_singleton, List.isEmpty_eq_false_iff.mpr hne]
  rfl

/-- Separators before a path do not count. -/
theorem segments_separators_append {front : Text} (h : ∀ c ∈ front, c = separator) (path : Text) :
    segments (front ++ path) = segments path := by
  induction front with
  | nil => rfl
  | cons c front ih =>
    rw [h c List.mem_cons_self, List.cons_append, segments_separator_cons,
      ih fun d hd => h d (List.mem_cons_of_mem _ hd)]

/-- Separators after a path do not count. -/
theorem segments_append_separators {tail : Text} (h : ∀ c ∈ tail, c = separator) (path : Text) :
    segments (path ++ tail) = segments path := by
  cases tail with
  | nil => rw [List.append_nil]
  | cons c tail =>
    have ht := segments_separators_append (fun d hd => h d (List.mem_cons_of_mem _ hd)) []
    rw [List.append_nil, segments_nil] at ht
    rw [h c List.mem_cons_self, segments_append_separator, ht, List.append_nil]

/-- What is trimmed from the end of a path is separators. -/
theorem exists_trimEnd (path : Text) :
    ∃ tail, path = trimEnd path ++ tail ∧ ∀ c ∈ tail, c = separator :=
  ⟨path.rtakeWhile (· == separator), List.rdropWhile_append_rtakeWhile.symm, fun c hc => by
    have hs := List.mem_rtakeWhile_imp hc
    exact eq_of_beq hs⟩

theorem segments_trimEnd (path : Text) : segments (trimEnd path) = segments path := by
  obtain ⟨tail, hpath, htail⟩ := exists_trimEnd path
  conv_rhs => rw [hpath]
  exact (segments_append_separators htail _).symm

theorem segments_trim (path : Text) :
    segments (Text.trim (· == separator) path) = segments path := by
  have hfront : ∀ c ∈ path.takeWhile (· == separator), c = separator := by
    intro c hc
    have hs := List.mem_takeWhile_imp hc
    exact eq_of_beq hs
  have hdrop := segments_separators_append hfront (path.dropWhile (· == separator))
  rw [List.takeWhile_append_dropWhile] at hdrop
  rw [hdrop]
  exact segments_trimEnd _

/-! ### The last separator -/

/-- A text with a character is parted by its last occurrence. -/
theorem exists_last_mem (h : c ∈ path) : ∃ above last, path = above ++ c :: last ∧ c ∉ last := by
  obtain ⟨before, after, hr, hn⟩ := List.eq_append_cons_of_mem (List.mem_reverse.mpr h)
  refine ⟨after.reverse, before.reverse, ?_, by rwa [List.mem_reverse]⟩
  rw [← List.reverse_reverse path, hr, List.reverse_append, List.reverse_cons, List.append_assoc,
    List.singleton_append]

theorem trimEnd_ne_append_separator (path above : Text) : trimEnd path ≠ above ++ [separator] := by
  intro h
  have hne : trimEnd path ≠ [] := by rw [h]; simp
  have hlast := List.rdropWhile_last_not (· == separator) path hne
  have hs : (trimEnd path).getLast hne = separator := by simp [h]
  exact hlast (beq_iff_eq.mpr hs)

/-- **A path either has a single piece or a last one**, which `dropLast` leaves out. -/
theorem path_cases (path : Text) :
    (separator ∉ trimEnd path ∧ dropLast path = trimEnd path) ∨
    ∃ above last, trimEnd path = above ++ separator :: last ∧ separator ∉ last ∧ last ≠ [] ∧
      dropLast path = above := by
  by_cases h : separator ∈ trimEnd path
  · obtain ⟨above, last, hp, hl⟩ := exists_last_mem h
    refine Or.inr ⟨above, last, hp, hl, ?_, ?_⟩
    · rintro rfl
      exact trimEnd_ne_append_separator path above hp
    · -- one piece more than those of `above`, so the `match` takes its second branch
      have hs : Text.splitAt separator (trimEnd path) = Text.splitAt separator above ++ [last] := by
        rw [hp, splitAt_append_cons, splitAt_of_not_mem hl]
      obtain ⟨first, rest, ha⟩ := List.exists_cons_of_ne_nil (Text.splitAt_ne_nil separator above)
      have hd : dropLast path =
          Text.joinWith [separator] (Text.splitAt separator above ++ [last]).dropLast := by
        rw [dropLast, hs, ha]
        cases rest <;> rfl
      rw [hd, List.dropLast_concat, joinWith_splitAt]
  · refine Or.inl ⟨h, ?_⟩
    rw [dropLast, splitAt_of_not_mem h]

end CmdletShell.Proofs.Paths.Segments
