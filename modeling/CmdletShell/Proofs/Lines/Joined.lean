import CmdletShell.Proofs.Lines.Stages

/-!
# Stages that are joined

What a line is cut into gives the line again when it is joined (`joinWith_pieces`). A piece that
another one follows does not end with a space and a bar: with the space of the separator after it
these would be a separator themselves, and one further left (`not_opened_piece`). These two facts,
and that no piece includes a separator, say which lists are cut out of a line
(`pieces_joinWith_iff`).

For texts without white space at their ends the same holds of stages: trimming a piece does not
make it longer, so the stages can be the texts only if there was nothing to trim
(`stages_joinWith_iff`).
-/

namespace CmdletShell.Proofs.Lines.Joined

open CmdletShell.Line CmdletShell.Text
open CmdletShell.Proofs.Lines.Strip CmdletShell.Proofs.Lines.Stages

/-- A separator without its last space. -/
def opening : Text := [' ', '|']

variable {text rest : Text} {texts : List Text}

theorem joinWith_singleton (separator text : Text) : joinWith separator [text] = text :=
  List.intercalate_singleton

theorem joinWith_cons (separator text : Text) (h : texts ≠ []) :
    joinWith separator (text :: texts) = text ++ separator ++ joinWith separator texts := by
  obtain ⟨next, more, rfl⟩ := List.exists_cons_of_ne_nil h
  exact List.intercalate_cons_cons

/-! ### Separators -/

/-- **A text with no character between spaces**, which does not end with a space and the character
either. -/
structure Unopened (c : Char) (text : Text) : Prop where
  inside : ¬ [' ', c, ' '] <:+: text
  ending : ¬ [' ', c] <:+ text

section Unopened
variable {c : Char}

theorem Unopened.append_space (h : Unopened c text) (hc : c ≠ ' ') :
    Unopened c (text ++ [' ']) := by
  constructor
  · rw [List.infix_concat_iff]
    rintro (hend | hin)
    · rcases List.suffix_concat_iff.mp hend with hnil | ⟨tail, htail, hsuffix⟩
      · cases hnil
      · have hbegun : [' ', c] = tail := List.append_cancel_right htail
        exact h.ending (hbegun ▸ hsuffix)
    · exact h.inside hin
  · intro hend
    rcases List.suffix_concat_iff.mp hend with hnil | ⟨tail, htail, -⟩
    · cases hnil
    · have hlast := congrArg List.getLast? htail
      rw [List.getLast?_concat] at hlast
      exact hc (Option.some.inj hlast)

theorem Unopened.append_spaces (h : Unopened c text) (hc : c ≠ ' ') :
    ∀ n, Unopened c (text ++ List.replicate n ' ')
  | 0 => by rwa [List.replicate_zero, List.append_nil]
  | n + 1 => by
    rw [List.replicate_succ', ← List.append_assoc]
    exact (h.append_spaces hc n).append_space hc

/-- A separator begun after the text makes none with it. -/
theorem Unopened.not_isInfix (h : Unopened c text) (hc : c ≠ ' ') :
    ¬ [' ', c, ' '] <:+: text ++ [' ', c] := by
  have hsplit : text ++ [' ', c] = (text ++ [' ']) ++ [c] := by simp
  rw [hsplit, List.infix_concat_iff]
  rintro (hend | hin)
  · -- a separator ends with a space
    rcases List.suffix_concat_iff.mp hend with hnil | ⟨tail, htail, -⟩
    · cases hnil
    · have hlast := congrArg List.getLast? htail
      rw [List.getLast?_concat] at hlast
      exact hc (Option.some.inj hlast).symm
  · exact (h.append_space hc).inside hin

end Unopened

/-! ### Pieces -/

/-- A separator begun after a text makes none with it, unless the text ends with one begun. -/
theorem not_isInfix_append_opening (hs : ¬ pipe <:+: text) (ho : ¬ opening <:+ text) :
    ¬ pipe <:+: text ++ opening :=
  Unopened.not_isInfix ⟨hs, ho⟩ (by decide)

/-- The first piece ends where the first separator begins. -/
theorem pieces_append_pipe (h : ¬ pipe <:+: text ++ opening) (rest : Text) :
    pieces (text ++ pipe ++ rest) = text :: pieces rest := by
  induction text with
  | nil => exact pieces_pipe rest
  | cons c text ih =>
    have hc : ¬ pipe <+: c :: (text ++ pipe ++ rest) := by
      intro hp
      have hline : c :: (text ++ pipe ++ rest) = (c :: text ++ opening) ++ (' ' :: rest) := by
        simp [pipe, opening]
      have hlen : pipe.length ≤ (c :: text ++ opening).length := by simp [pipe, opening]
      rw [hline] at hp
      exact h (List.prefix_of_prefix_length_le hp (List.prefix_append _ _) hlen).isInfix
    obtain ⟨piece, more, hpieces, hcons⟩ := pieces_cons hc
    have hrest : ¬ pipe <:+: text ++ opening := fun hp =>
      h (hp.trans (List.suffix_cons c (text ++ opening)).isInfix)
    rw [ih hrest] at hpieces
    obtain ⟨rfl, rfl⟩ := List.cons.inj hpieces
    exact hcons

theorem pieces_joinWith (hne : texts ≠ []) (hs : ∀ text ∈ texts, ¬ pipe <:+: text)
    (ho : ∀ text ∈ texts.dropLast, ¬ opening <:+ text) :
    pieces (joinWith pipe texts) = texts := by
  induction texts with
  | nil => exact absurd rfl hne
  | cons text texts ih =>
    by_cases hlast : texts = []
    · subst hlast
      rw [joinWith_singleton]
      have hp : isPipeline text = false := by
        rw [Bool.eq_false_iff, ne_eq, isPipeline_iff]
        exact hs text List.mem_cons_self
      exact pieces_of_single text hp
    · rw [List.dropLast_cons_of_ne_nil hlast] at ho
      have hfirst : ¬ pipe <:+: text ++ opening :=
        not_isInfix_append_opening (hs text List.mem_cons_self) (ho text List.mem_cons_self)
      have hrest : pieces (joinWith pipe texts) = texts :=
        ih hlast (fun other hm => hs other (List.mem_cons_of_mem _ hm))
          (fun other hm => ho other (List.mem_cons_of_mem _ hm))
      rw [joinWith_cons pipe text hlast, pieces_append_pipe hfirst, hrest]

/-- **The pieces of a line, joined, are the line.** -/
theorem joinWith_pieces : ∀ line, joinWith pipe (pieces line) = line := by
  refine pieces_induction rfl (fun rest ih => ?_) (fun c rest h ih => ?_)
  · rw [pieces_pipe, joinWith_cons pipe [] (pieces_ne_nil rest), ih, List.nil_append]
  · obtain ⟨piece, more, hp, hcons⟩ := pieces_cons h
    rw [hp] at ih
    rw [hcons]
    by_cases hm : more = []
    · subst hm
      rw [joinWith_singleton] at ih ⊢
      rw [ih]
    · rw [joinWith_cons pipe _ hm] at ih ⊢
      rw [List.cons_append, List.cons_append, ih]

/-- A piece that another one follows does not end with a separator that is only begun. -/
theorem not_opened_piece :
    ∀ line, ∀ piece ∈ (pieces line).dropLast, ¬ opening <:+ piece := by
  refine pieces_induction (by simp [pieces_nil]) (fun rest ih => ?_) (fun c rest h ih => ?_)
  · intro piece hm
    rw [pieces_pipe, List.dropLast_cons_of_ne_nil (pieces_ne_nil rest)] at hm
    rcases List.mem_cons.mp hm with rfl | hm
    · decide
    · exact ih piece hm
  · obtain ⟨first, more, hp, hcons⟩ := pieces_cons h
    rw [hp] at ih
    rw [hcons]
    by_cases hm : more = []
    · subst hm
      simp
    · rw [List.dropLast_cons_of_ne_nil hm] at ih ⊢
      intro piece hmem
      rcases List.mem_cons.mp hmem with rfl | hmem
      · intro hsuffix
        rcases List.suffix_cons_iff.mp hsuffix with heq | hsuffix
        · -- the piece and the separator after it would begin with a separator
          have hrest := joinWith_pieces rest
          rw [hp, joinWith_cons pipe first hm] at hrest
          refine h ⟨['|', ' '] ++ joinWith pipe more, ?_⟩
          have hline : c :: rest = opening ++ pipe ++ joinWith pipe more := by
            rw [heq, ← hrest]
            simp
          rw [hline]
          simp [pipe, opening]
        · exact ih first List.mem_cons_self hsuffix
      · exact ih piece (List.mem_cons_of_mem _ hmem)

/-- **The lists that are cut out of a line.** -/
theorem pieces_joinWith_iff (hne : texts ≠ []) :
    pieces (joinWith pipe texts) = texts ↔
      (∀ text ∈ texts, ¬ pipe <:+: text) ∧ ∀ text ∈ texts.dropLast, ¬ opening <:+ text := by
  constructor
  · intro h
    have hopened := not_opened_piece (joinWith pipe texts)
    have hsingle := isPipeline_piece (joinWith pipe texts)
    rw [h] at hopened hsingle
    refine ⟨fun text hm hp => ?_, hopened⟩
    have hfalse := hsingle text hm
    rw [isPipeline_iff.mpr hp] at hfalse
    cases hfalse
  · rintro ⟨hs, ho⟩
    exact pieces_joinWith hne hs ho

/-! ### Stages -/

theorem length_strip_le (text : Text) : (strip text).length ≤ text.length :=
  (strip_isInfix text).length_le

theorem length_joinWith_cons (separator text : Text) (h : texts ≠ []) :
    (joinWith separator (text :: texts)).length =
      text.length + separator.length + (joinWith separator texts).length := by
  rw [joinWith_cons separator text h, List.length_append, List.length_append]

/-- Joined texts do not get longer when they are trimmed. -/
theorem length_joinWith_strip_le (separator : Text) (texts : List Text) :
    (joinWith separator (texts.map strip)).length ≤ (joinWith separator texts).length := by
  induction texts with
  | nil => exact Nat.le_refl 0
  | cons text texts ih =>
    have htext := length_strip_le text
    by_cases hlast : texts = []
    · subst hlast
      rw [List.map_singleton, joinWith_singleton, joinWith_singleton]
      exact htext
    · have hlast' : texts.map strip ≠ [] := by simpa using hlast
      rw [List.map_cons, length_joinWith_cons separator _ hlast,
        length_joinWith_cons separator _ hlast']
      omega

/-- Joined texts that are as long when they are trimmed had nothing to trim. -/
theorem map_strip_of_length_le (separator : Text)
    (h : (joinWith separator texts).length ≤ (joinWith separator (texts.map strip)).length) :
    texts.map strip = texts := by
  induction texts with
  | nil => rfl
  | cons text texts ih =>
    by_cases hlast : texts = []
    · subst hlast
      rw [List.map_singleton, joinWith_singleton, joinWith_singleton] at h
      rw [List.map_singleton, (strip_isInfix text).eq_of_length_le h]
    · have hlast' : texts.map strip ≠ [] := by simpa using hlast
      rw [List.map_cons, length_joinWith_cons separator _ hlast,
        length_joinWith_cons separator _ hlast'] at h
      have hshorter := length_strip_le text
      have hrest := length_joinWith_strip_le separator texts
      have htext : strip text = text := (strip_isInfix text).eq_of_length_le (by omega)
      rw [List.map_cons, htext, ih (by omega)]

/-- Texts with nothing to trim are the stages of a line if they are its pieces. -/
theorem stages_joinWith_iff (h : ∀ text ∈ texts, HasEnds isBlank text) :
    stages (joinWith pipe texts) = texts ↔ pieces (joinWith pipe texts) = texts := by
  constructor
  · intro hs
    have hline := joinWith_pieces (joinWith pipe texts)
    have hstrip : (pieces (joinWith pipe texts)).map strip = texts := hs
    have hlen : (joinWith pipe (pieces (joinWith pipe texts))).length ≤
        (joinWith pipe ((pieces (joinWith pipe texts)).map strip)).length := by
      rw [hline, hstrip]
    rw [← map_strip_of_length_le pipe hlen, hstrip]
  · intro hp
    have hstrip : texts.map strip = texts := by
      conv_rhs => rw [← List.map_id texts]
      exact List.map_congr_left fun text hm => trim_eq_self (h text hm)
    rw [stages, hp, hstrip]

/-- **The stages that a line can carry.** Texts with nothing to trim, joined by separators, are the
stages of the line exactly if none includes a separator and none but the last ends with a space and
a bar. A line is a pipeline exactly if it has two stages or more, and no stage includes a
separator. -/
theorem stages_carried (texts : List Text) (hne : texts ≠ [])
    (hends : ∀ text ∈ texts, HasEnds isBlank text) :
    (stages (joinWith pipe texts) = texts ↔
      (∀ text ∈ texts, ¬ pipe <:+: text) ∧ ∀ text ∈ texts.dropLast, ¬ opening <:+ text) ∧
    ∀ line, (isPipeline line = true ↔ 2 ≤ (stages line).length) ∧
      ∀ stage ∈ stages line, ¬ pipe <:+: stage := by
  refine ⟨(stages_joinWith_iff hends).trans (pieces_joinWith_iff hne), fun line => ⟨?_, ?_⟩⟩
  · rw [isPipeline_iff_two_le, stages, List.length_map]
  · intro stage hm hp
    have hsingle := (stage_plain hm).single
    rw [isPipeline_iff.mpr hp] at hsingle
    cases hsingle

/-- Texts that are bars, end with one, or have no character. -/
def barred : List Text := ["a", "|", "", "b |"]

/-- They are carried as they stand, but not in the opposite order. -/
theorem stages_carried_barred :
    barred ≠ [] ∧ (∀ text ∈ barred, HasEnds isBlank text) ∧
    stages (joinWith pipe barred) = barred ∧
    barred.reverse ≠ [] ∧ (∀ text ∈ barred.reverse, HasEnds isBlank text) ∧
    stages (joinWith pipe barred.reverse) ≠ barred.reverse := by
  have hne : barred ≠ [] := by decide
  have hne' : barred.reverse ≠ [] := by decide
  have hstripped : ∀ text ∈ barred, strip text = text := by decide
  have hends : ∀ text ∈ barred, HasEnds isBlank text :=
    fun text hm => trim_eq_self_iff.mp (hstripped text hm)
  have hends' : ∀ text ∈ barred.reverse, HasEnds isBlank text :=
    fun text hm => hends text (List.mem_reverse.mp hm)
  have hcarried := (stages_carried barred hne hends).1
  have hcut := (stages_carried barred.reverse hne' hends').1
  refine ⟨hne, hends, hcarried.mpr ⟨by decide, by decide⟩, hne', hends', fun h => ?_⟩
  have hopened : opening <:+ ("b |" : Text) := by decide
  exact (hcut.mp h).2 "b |" (by decide) hopened

end CmdletShell.Proofs.Lines.Joined
