import CmdletShell.Proofs.Lines.Unquoted

/-!
# What stands after the last separator

`afterLastPipe` reads a line from the right, while its stages are cut from the left. The two agree
on what comes last unless two separators share a space (`afterLastPipe_eq_getLast`).

The text after the last separator, without the white space at its start, is the stage that is being
typed (`openStage`). The line goes on with it after white space (`exists_openStage`), and trimmed it
is the last stage (`getLast_stages`).
-/

namespace CmdletShell.Proofs.Lines.LastPipe

open CmdletShell.Line CmdletShell.Text
open CmdletShell.Proofs.Lines.Stages CmdletShell.Proofs.Lines.Trimmed
open CmdletShell.Proofs.Lines.Unquoted

variable {line text rest : Text} {c : Char}

/-- Two separators that share a space. -/
def overlapping : Text := " | | "

/-! ### Reading from the right -/

theorem afterLastPipe?_eq_some :
    ∀ {line : Text}, afterLastPipe? line = some text → ∃ front, line = front ++ pipe ++ text
  | [], h => by cases h
  | c :: rest, h => by
    rw [afterLastPipe?] at h
    split at h
    · next later hrest =>
      cases h
      obtain ⟨front, rfl⟩ := afterLastPipe?_eq_some hrest
      exact ⟨c :: front, rfl⟩
    · split_ifs at h with hpipe
      obtain ⟨tail, htail⟩ := List.isPrefixOf_iff_prefix.mp hpipe
      obtain ⟨rfl, rfl⟩ := List.cons.inj htail
      cases h
      exact ⟨[], rfl⟩

/-- No separator is found exactly if there is none. -/
theorem afterLastPipe?_eq_none :
    ∀ {line : Text}, afterLastPipe? line = none ↔ isPipeline line = false
  | [] => iff_of_true rfl rfl
  | c :: rest => by
    have ih := @afterLastPipe?_eq_none rest
    rw [Bool.eq_false_iff, ne_eq, isPipeline_iff] at ih ⊢
    rw [afterLastPipe?, List.infix_cons_iff, not_or, ← ih]
    cases afterLastPipe? rest with
    | some text => simp
    | none => simp [List.isPrefixOf_iff_prefix]

/-- A character that begins no separator is passed over. -/
theorem afterLastPipe?_cons (h : ¬ pipe <+: c :: rest) :
    afterLastPipe? (c :: rest) = afterLastPipe? rest := by
  rw [afterLastPipe?]
  cases afterLastPipe? rest with
  | some text => rfl
  | none => exact if_neg fun hp => h (List.isPrefixOf_iff_prefix.mp hp)

/-- A separator is the last one unless there is one in what follows it. -/
theorem afterLastPipe?_pipe (h : ¬ overlapping <+: pipe ++ rest) :
    afterLastPipe? (pipe ++ rest) = some (afterLastPipe rest) := by
  have hbar : afterLastPipe? ('|' :: ' ' :: rest) = afterLastPipe? (' ' :: rest) := by
    refine afterLastPipe?_cons fun hp => ?_
    have hfirst := List.cons_prefix_cons.mp hp
    exact absurd hfirst.1 (by decide)
  have hspace : afterLastPipe? (' ' :: rest) = afterLastPipe? rest := by
    refine afterLastPipe?_cons ?_
    rintro ⟨tail, htail⟩
    obtain ⟨-, rfl⟩ := List.cons.inj htail
    exact h ⟨tail, rfl⟩
  have hline : pipe ++ rest = ' ' :: '|' :: ' ' :: rest := rfl
  have hpipe : pipe.isPrefixOf (' ' :: '|' :: ' ' :: rest) = true :=
    List.isPrefixOf_iff_prefix.mpr ⟨rest, rfl⟩
  rw [hline, afterLastPipe?, hbar, hspace, afterLastPipe]
  cases afterLastPipe? rest with
  | some text => rfl
  | none => exact if_pos hpipe

/-- **Read from the right or cut from the left, the last piece is the same.** -/
theorem afterLastPipe_eq_getLast : ∀ line, ¬ overlapping <:+: line →
    afterLastPipe line = (pieces line).getLast (pieces_ne_nil line) := by
  refine pieces_induction (fun _ => rfl) (fun rest ih h => ?_) (fun c rest hc ih h => ?_)
  · have hrest : ¬ overlapping <:+: rest := fun ho =>
      h (ho.trans (List.suffix_append pipe rest).isInfix)
    rw [afterLastPipe, afterLastPipe?_pipe fun ho => h ho.isInfix, Option.getD_some, ih hrest]
    simp only [pieces_pipe, List.getLast_cons (pieces_ne_nil rest)]
  · have hrest : ¬ overlapping <:+: rest := fun ho =>
      h (ho.trans (List.suffix_cons c rest).isInfix)
    obtain ⟨piece, more, hp, hcons⟩ := pieces_cons hc
    have ih := ih hrest
    rw [afterLastPipe, afterLastPipe?_cons hc]
    simp only [hp, hcons] at ih ⊢
    by_cases hm : more = []
    · subst hm
      have hsingle : isPipeline rest = false := by
        have hlen := two_le_length_pieces rest
        rw [hp] at hlen
        simpa using hlen
      rw [pieces_of_single rest hsingle] at hp
      obtain ⟨rfl, -⟩ := List.cons.inj hp
      rw [afterLastPipe?_eq_none.mpr hsingle]
      rfl
    · have hsome : afterLastPipe? rest ≠ none := by
        have hlen := List.length_pos_iff.mpr hm
        have hline : isPipeline rest = true := by
          rw [isPipeline_iff_two_le, hp, List.length_cons]
          omega
        rw [ne_eq, afterLastPipe?_eq_none, hline]
        exact Bool.noConfusion
      obtain ⟨text, htext⟩ := Option.ne_none_iff_exists'.mp hsome
      rw [List.getLast_cons hm] at ih ⊢
      rw [← ih, afterLastPipe, htext]
      rfl

/-! ### The stage that is being typed -/

/-- The text after the last separator, without the white space at its start. -/
def openStage (text : Text) : Text := stripLeft (afterLastPipe text)

/-- What stands before the stage that is being typed is empty or ends with white space. -/
theorem exists_openStage (text : Text) : ∃ front, text = front ++ openStage text ∧ Ended front := by
  have hgap : ∀ after, ∃ gap, after = gap ++ stripLeft after ∧ ∀ c ∈ gap, isBlank c = true :=
    fun after => ⟨after.takeWhile isBlank, List.takeWhile_append_dropWhile.symm,
      fun c hc => List.mem_takeWhile_imp hc⟩
  obtain ⟨gap, hafter, hblank⟩ := hgap (afterLastPipe text)
  have hended : ∀ c ∈ gap.getLast?, isBlank c = true :=
    fun c hc => hblank c (List.mem_of_getLast? hc)
  unfold openStage
  cases hlast : afterLastPipe? text with
  | none =>
    have hwhole : afterLastPipe text = text := by
      rw [afterLastPipe, hlast]
      rfl
    rw [hwhole] at hafter ⊢
    exact ⟨gap, hafter, hended⟩
  | some after =>
    obtain ⟨front, hline⟩ := afterLastPipe?_eq_some hlast
    have hsome : afterLastPipe text = after := by
      rw [afterLastPipe, hlast]
      rfl
    rw [hsome] at hafter ⊢
    refine ⟨front ++ pipe ++ gap, ?_, fun c hc => ?_⟩
    · rw [List.append_assoc, ← hafter]
      exact hline
    · by_cases hg : gap = []
      · subst hg
        rw [List.append_nil, List.getLast?_append_of_ne_nil _ (by decide)] at hc
        cases hc
        rfl
      · rw [List.getLast?_append_of_ne_nil _ hg] at hc
        exact hended c hc

/-- Where no separators overlap, the last stage is the one that is being typed, trimmed. -/
theorem getLast_stages (h : ¬ overlapping <:+: text) (hne : stages text ≠ []) :
    (stages text).getLast hne = strip (openStage text) := by
  unfold openStage
  rw [strip_stripLeft, afterLastPipe_eq_getLast text h]
  simp only [stages, List.getLast_map]

end CmdletShell.Proofs.Lines.LastPipe
