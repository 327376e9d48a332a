import CmdletShell.Line.Stage
import CmdletShell.Proofs.Lines.Strip

/-!
# Stages of a line

`pieces` cuts a line at every separator, read from the left, so no piece includes one
(`isPipeline_piece`); a line is a pipeline if it has two pieces or more (`isPipeline_iff_two_le`). A
stage is a piece without the white space around it: it includes no separator either and trimming
does not change it (`stage_plain`).
-/

namespace CmdletShell.Proofs.Lines.Stages

open CmdletShell.Line CmdletShell.Text CmdletShell.Proofs.Lines.Strip

variable {line piece stage : Text}

theorem isPipeline_iff : isPipeline line = true ↔ pipe <:+: line := includes_iff

theorem isPipeline_eq_false_of_isInfix (h : piece <:+: line) (hl : isPipeline line = false) :
    isPipeline piece = false := by
  by_contra hp
  rw [Bool.not_eq_false] at hp
  rw [isPipeline, includes_of_isInfix h hp] at hl
  cases hl

/-- A separator does not reach across a character that it does not have. -/
theorem isPipeline_append_cons {c : Char} (hc : c ∉ pipe) (before after : Text) :
    isPipeline (before ++ c :: after) = (isPipeline before || isPipeline after) := by
  rw [Bool.eq_iff_iff, Bool.or_eq_true, isPipeline_iff, isPipeline_iff, isPipeline_iff]
  exact isInfix_append_cons hc

/-! ### Pieces -/

theorem pieces_nil : pieces [] = [[]] := rfl

theorem pieces_pipe (rest : Text) : pieces (pipe ++ rest) = [] :: pieces rest := by
  rw [pipe, List.cons_append, List.cons_append, List.cons_append, List.nil_append, pieces]

theorem pieces_ne_nil (line : Text) : pieces line ≠ [] := by
  unfold pieces
  split
  · simp
  · simp
  · split <;> simp

theorem stages_ne_nil (line : Text) : stages line ≠ [] := by
  rw [stages, ne_eq, List.map_eq_nil_iff]
  exact pieces_ne_nil line

/-- A character that begins no separator goes to the first piece. -/
theorem pieces_cons {c : Char} {rest : Text} (h : ¬ pipe <+: c :: rest) :
    ∃ piece more, pieces rest = piece :: more ∧ pieces (c :: rest) = (c :: piece) :: more := by
  obtain ⟨piece, more, hp⟩ := List.exists_cons_of_ne_nil (pieces_ne_nil rest)
  refine ⟨piece, more, hp, ?_⟩
  rw [pieces, hp]
  rintro tail rfl rfl
  exact h ⟨tail, rfl⟩

/-- The induction along `pieces`: the end of the line, a separator, any other character. -/
theorem pieces_induction {motive : Text → Prop} (nil : motive [])
    (sep : ∀ rest, motive rest → motive (pipe ++ rest))
    (char : ∀ c rest, ¬ pipe <+: c :: rest → motive rest → motive (c :: rest)) :
    ∀ line, motive line := by
  intro line
  induction hn : line.length using Nat.strong_induction_on generalizing line with
  | _ n ih =>
    subst hn
    cases line with
    | nil => exact nil
    | cons c rest =>
      by_cases h : pipe <+: c :: rest
      · obtain ⟨tail, ht⟩ := h
        rw [← ht]
        refine sep tail (ih tail.length ?_ tail rfl)
        rw [← ht, List.length_append]
        simp [pipe]
      · exact char c rest h (ih rest.length (by simp) rest rfl)

/-- The first piece begins the line. -/
theorem head_pieces_isPrefix :
    ∀ line, ∃ piece more, pieces line = piece :: more ∧ piece <+: line := by
  refine pieces_induction ⟨[], [], rfl, List.prefix_rfl⟩ (fun rest _ => ?_) (fun c rest h ih => ?_)
  · exact ⟨[], pieces rest, pieces_pipe rest, List.nil_prefix⟩
  · obtain ⟨piece, more, hp, hpre⟩ := ih
    obtain ⟨piece', more', hp', hc⟩ := pieces_cons h
    rw [hp] at hp'
    obtain ⟨rfl, rfl⟩ := List.cons.inj hp'
    exact ⟨c :: piece, more, hc, (List.prefix_cons_inj c).mpr hpre⟩

/-- **No piece includes a separator.** -/
theorem isPipeline_piece : ∀ line, ∀ piece ∈ pieces line, isPipeline piece = false := by
  refine pieces_induction (by simp [pieces_nil]; decide) (fun rest ih => ?_) (fun c rest h ih => ?_)
  · intro piece hp
    rw [pieces_pipe] at hp
    rcases List.mem_cons.mp hp with rfl | hp
    · decide
    · exact ih piece hp
  · obtain ⟨first, more, hf, hc⟩ := pieces_cons h
    intro piece hp
    rw [hc] at hp
    rcases List.mem_cons.mp hp with rfl | hp
    · -- a separator at the start of the piece would stand at the start of the line
      obtain ⟨first', more', hf', hpre⟩ := head_pieces_isPrefix rest
      rw [hf] at hf'
      obtain ⟨rfl, rfl⟩ := List.cons.inj hf'
      rw [Bool.eq_false_iff, ne_eq, isPipeline_iff, List.infix_cons_iff]
      rintro (hsep | hsep)
      · exact h (hsep.trans ((List.prefix_cons_inj c).mpr hpre))
      · have := ih first (hf ▸ List.mem_cons_self)
        rw [isPipeline_iff.mpr hsep] at this
        cases this
    · exact ih piece (hf ▸ List.mem_cons_of_mem _ hp)

/-- A line without a separator is one piece. -/
theorem pieces_of_single : ∀ line, isPipeline line = false → pieces line = [line] := by
  refine pieces_induction (fun _ => pieces_nil) (fun rest _ h => ?_) (fun c rest hc ih h => ?_)
  · rw [isPipeline_iff.mpr (List.prefix_append pipe rest).isInfix] at h
    cases h
  · obtain ⟨piece, more, hp, hcons⟩ := pieces_cons hc
    rw [ih (isPipeline_eq_false_of_isInfix (List.suffix_cons c rest).isInfix h)] at hp
    obtain ⟨rfl, rfl⟩ := List.cons.inj hp
    exact hcons

theorem two_le_length_pieces : ∀ line, isPipeline line = true → 2 ≤ (pieces line).length := by
  refine pieces_induction (fun h => by cases h) (fun rest _ _ => ?_) (fun c rest hc ih h => ?_)
  · have := List.length_pos_iff.mpr (pieces_ne_nil rest)
    rw [pieces_pipe, List.length_cons]
    omega
  · obtain ⟨piece, more, hp, hcons⟩ := pieces_cons hc
    have hrest : isPipeline rest = true :=
      isPipeline_iff.mpr ((List.infix_cons_iff.mp (isPipeline_iff.mp h)).resolve_left hc)
    have hlen := ih hrest
    rw [hp] at hlen
    rw [hcons]
    exact hlen

/-- **The pipelines are the lines of two pieces or more.** -/
theorem isPipeline_iff_two_le : isPipeline line = true ↔ 2 ≤ (pieces line).length := by
  refine ⟨two_le_length_pieces line, fun h => ?_⟩
  by_contra hp
  rw [pieces_of_single line (by simpa using hp), List.length_singleton] at h
  omega

/-! ### Stages -/

/-- A text that runs as one command: nothing to trim and no separator. -/
structure Plain (stage : Text) : Prop where
  stripped : strip stage = stage
  single : isPipeline stage = false

theorem stage_plain (h : stage ∈ stages line) : Plain stage := by
  obtain ⟨piece, hp, rfl⟩ := List.mem_map.mp h
  exact ⟨strip_strip piece,
    isPipeline_eq_false_of_isInfix (strip_isInfix piece) (isPipeline_piece line piece hp)⟩

/-- A piece has no character but those of the line. -/
theorem subset_of_mem_pieces : ∀ line, ∀ piece ∈ pieces line, piece ⊆ line := by
  refine pieces_induction (by simp [pieces_nil]) (fun rest ih => ?_) (fun c rest h ih => ?_)
  · intro piece hp
    rw [pieces_pipe] at hp
    rcases List.mem_cons.mp hp with rfl | hp
    · exact List.nil_subset _
    · exact List.Subset.trans (ih piece hp) (List.subset_append_right pipe rest)
  · obtain ⟨first, more, hf, hc⟩ := pieces_cons h
    intro piece hp
    rw [hc] at hp
    rcases List.mem_cons.mp hp with rfl | hp
    · exact List.cons_subset_cons c (ih first (hf ▸ List.mem_cons_self))
    · exact List.Subset.trans (ih piece (hf ▸ List.mem_cons_of_mem _ hp))
        (List.subset_cons_self c rest)

theorem subset_of_mem_stages (h : stage ∈ stages line) : stage ⊆ line := by
  obtain ⟨piece, hp, rfl⟩ := List.mem_map.mp h
  exact List.Subset.trans (strip_isInfix piece).subset (subset_of_mem_pieces line piece hp)

theorem isPipeline_of_stages {rest : List Text} (h : stages line = stage :: rest) :
    isPipeline line = !rest.isEmpty := by
  have hlen : (pieces line).length = rest.length + 1 := by
    rw [← List.length_cons (a := stage), ← h, stages, List.length_map]
  rw [Bool.eq_iff_iff, isPipeline_iff_two_le, hlen]
  cases rest <;> simp

/-- A line without a separator is one stage. -/
theorem stages_of_single (h : isPipeline line = false) : stages line = [strip line] := by
  rw [stages, pieces_of_single line h, List.map_singleton]

/-- The only stage of a trimmed line is the line. -/
theorem eq_of_stages_eq_singleton (h : stages line = [stage]) (hs : strip line = line) :
    stage = line := by
  have hp : isPipeline line = false := isPipeline_of_stages h
  rw [stages_of_single hp, hs] at h
  exact (List.singleton_inj.mp h).symm

end CmdletShell.Proofs.Lines.Stages
