import CmdletShell.Proofs.Lines.Joined
import CmdletShell.Proofs.Lines.Quoting

/-!
# Stages of a trimmed line

A line is trimmed before it is cut into stages. That changes its first and its last piece only, and
as long as these are not blank the stages are the same (`stages_stripLeft`, `stages_stripRight`).

A separator at an end of the line, with nothing but white space behind it or before it, is cut short
by the trimming, and is none any more. At the end its bar belongs to the stage before
(`stages_stripRight_blank`), at the start to the stage after it, which then begins with a bar
(`stages_strip_blank`).
-/

namespace CmdletShell.Proofs.Lines.Trimmed

open CmdletShell.Line CmdletShell.Text
open CmdletShell.Proofs.Lines.Strip CmdletShell.Proofs.Lines.Stages
open CmdletShell.Proofs.Lines.Joined CmdletShell.Proofs.Lines.Quoting

variable {line text piece last stage : Text} {init more before after : List Text}

/-- The character between the spaces of a separator. -/
def bar : Text := ['|']

/-! ### Trimming one end -/

theorem stripLeft_eq_nil_iff : stripLeft text = [] ↔ strip text = [] := by
  rw [strip_eq_nil_iff]
  exact List.dropWhile_eq_nil_iff

theorem strip_reverse_eq_nil_iff : strip text.reverse = [] ↔ strip text = [] := by
  rw [strip_eq_nil_iff, strip_eq_nil_iff]
  exact forall_congr' fun c => by rw [List.mem_reverse]

theorem stripLeft_append (h : strip text ≠ []) (rest : Text) :
    stripLeft (text ++ rest) = stripLeft text ++ rest := by
  have hempty : ¬ (text.dropWhile isBlank).isEmpty = true := by
    rw [List.isEmpty_iff]
    exact stripLeft_eq_nil_iff.not.mpr h
  exact List.dropWhile_append.trans (if_neg hempty)

theorem stripLeft_append_of_blank (h : strip text = []) (rest : Text) :
    stripLeft (text ++ rest) = stripLeft rest :=
  List.dropWhile_append_of_pos (strip_eq_nil_iff.mp h)

theorem stripRight_eq (text : Text) : stripRight text = (stripLeft text.reverse).reverse := rfl

theorem stripRight_append (h : strip text ≠ []) (front : Text) :
    stripRight (front ++ text) = front ++ stripRight text := by
  rw [stripRight_eq, List.reverse_append, stripLeft_append (strip_reverse_eq_nil_iff.not.mpr h),
    List.reverse_append, List.reverse_reverse, stripRight_eq]

theorem stripRight_append_of_blank (h : strip text = []) (front : Text) :
    stripRight (front ++ text) = stripRight front := by
  rw [stripRight_eq, List.reverse_append,
    stripLeft_append_of_blank (strip_reverse_eq_nil_iff.mpr h), stripRight_eq]

theorem strip_eq (text : Text) : strip text = stripRight (stripLeft text) := rfl

theorem strip_stripLeft (text : Text) : strip (stripLeft text) = strip text := by
  have hd : stripLeft (stripLeft text) = stripLeft text := List.dropWhile_idempotent _ _
  rw [strip_eq, hd, strip_eq]

/-- What is trimmed off the end is white space. -/
theorem exists_stripRight (text : Text) :
    ∃ tail, text = stripRight text ++ tail ∧ strip tail = [] := by
  refine ⟨text.rtakeWhile isBlank, List.rdropWhile_append_rtakeWhile.symm, ?_⟩
  rw [strip_eq_nil_iff]
  exact fun c hc => List.mem_rtakeWhile_imp hc

theorem strip_append_of_blank (h : strip text = []) (front : Text) :
    strip (front ++ text) = strip front := by
  by_cases hf : strip front = []
  · rw [strip_eq, stripLeft_append_of_blank hf, stripLeft_eq_nil_iff.mpr h, hf]
    rfl
  · rw [strip_eq, stripLeft_append hf, stripRight_append_of_blank h, strip_eq]

theorem strip_stripRight (text : Text) : strip (stripRight text) = strip text := by
  obtain ⟨tail, htext, hblank⟩ := exists_stripRight text
  conv_rhs => rw [htext]
  rw [strip_append_of_blank hblank]

/-! ### What a line is cut into -/

theorem joinWith_concat (separator : Text) (h : init ≠ []) (text : Text) :
    joinWith separator (init ++ [text]) = joinWith separator init ++ separator ++ text := by
  induction init with
  | nil => exact absurd rfl h
  | cons first init ih =>
    by_cases hi : init = []
    · subst hi
      rw [List.singleton_append, joinWith_cons separator first (List.cons_ne_nil _ _),
        joinWith_singleton, joinWith_singleton]
    · have hne : init ++ [text] ≠ [] := List.append_ne_nil_of_right_ne_nil _ (List.cons_ne_nil _ _)
      rw [List.cons_append, joinWith_cons separator first hne, ih hi,
        joinWith_cons separator first hi]
      simp only [List.append_assoc]

/-- **No piece includes a separator, and none but the last ends with one begun.** -/
theorem cut_pieces (line : Text) : (∀ text ∈ pieces line, ¬ pipe <:+: text) ∧
    ∀ text ∈ (pieces line).dropLast, ¬ opening <:+ text := by
  have h := pieces_joinWith_iff (pieces_ne_nil line)
  rw [joinWith_pieces] at h
  exact h.mp rfl

theorem pieces_stripLeft (hp : pieces line = piece :: more) (h : strip piece ≠ []) :
    pieces (stripLeft line) = stripLeft piece :: more := by
  have hline : stripLeft line = joinWith pipe (stripLeft piece :: more) := by
    rw [← joinWith_pieces line, hp]
    by_cases hm : more = []
    · rw [hm, joinWith_singleton, joinWith_singleton]
    · rw [joinWith_cons pipe _ hm, joinWith_cons pipe _ hm, List.append_assoc, stripLeft_append h,
        List.append_assoc]
  have hsuffix : stripLeft piece <:+ piece := List.dropWhile_suffix _
  obtain ⟨hs, ho⟩ := cut_pieces line
  rw [hp] at hs ho
  rw [hline, pieces_joinWith_iff (List.cons_ne_nil _ _)]
  constructor
  · rintro text hm hpipe
    rcases List.mem_cons.mp hm with rfl | hm
    · exact hs piece List.mem_cons_self (hpipe.trans hsuffix.isInfix)
    · exact hs text (.tail _ hm) hpipe
  · intro text hm hopen
    by_cases hmore : more = []
    · rw [hmore] at hm
      cases hm
    · rw [List.dropLast_cons_of_ne_nil hmore] at hm ho
      rcases List.mem_cons.mp hm with rfl | hm
      · exact ho piece List.mem_cons_self (hopen.trans hsuffix)
      · exact ho text (.tail _ hm) hopen

theorem pieces_stripRight (hp : pieces line = init ++ [last]) (h : strip last ≠ []) :
    pieces (stripRight line) = init ++ [stripRight last] := by
  have hline : stripRight line = joinWith pipe (init ++ [stripRight last]) := by
    rw [← joinWith_pieces line, hp]
    by_cases hi : init = []
    · rw [hi, List.nil_append, List.nil_append, joinWith_singleton, joinWith_singleton]
    · rw [joinWith_concat pipe hi, joinWith_concat pipe hi, stripRight_append h]
  have hprefix : stripRight last <+: last := List.rdropWhile_prefix _ _
  obtain ⟨hs, ho⟩ := cut_pieces line
  rw [hp] at hs ho
  rw [List.dropLast_concat] at ho
  rw [hline, pieces_joinWith_iff (by simp), List.dropLast_concat]
  refine ⟨fun text hm hpipe => ?_, ho⟩
  rcases List.mem_append.mp hm with hm | hm
  · exact hs text (List.mem_append_left _ hm) hpipe
  · rw [List.mem_singleton.mp hm] at hpipe
    exact hs last (by simp) (hpipe.trans hprefix.isInfix)

/-- **A last piece that is blank goes, and the bar before it stays.** -/
theorem pieces_stripRight_blank (hp : pieces line = init ++ [piece, last]) (h : strip last = []) :
    pieces (stripRight line) = init ++ [piece ++ opening] := by
  have hpair : init ++ [piece, last] = (init ++ [piece]) ++ [last] := by simp
  rw [hpair] at hp
  have hline : stripRight line = joinWith pipe (init ++ [piece ++ opening]) := by
    have hcut : joinWith pipe (init ++ [piece ++ opening]) =
        joinWith pipe (init ++ [piece]) ++ opening := by
      by_cases hi : init = []
      · rw [hi, List.nil_append, List.nil_append, joinWith_singleton, joinWith_singleton]
      · rw [joinWith_concat pipe hi, joinWith_concat pipe hi, ← List.append_assoc]
    have hblank : strip (' ' :: last) = [] := by
      rw [strip_eq_nil_iff] at h ⊢
      exact List.forall_mem_cons.mpr ⟨rfl, h⟩
    have hsep : joinWith pipe (init ++ [piece]) ++ pipe ++ last =
        (joinWith pipe (init ++ [piece]) ++ opening) ++ ' ' :: last := by
      simp [pipe, opening]
    have hopen : stripRight opening = opening := by decide
    rw [← joinWith_pieces line, hp, joinWith_concat pipe (by simp), hsep,
      stripRight_append_of_blank hblank, stripRight_append (by decide), hopen, hcut]
  obtain ⟨hs, ho⟩ := cut_pieces line
  rw [hp] at hs ho
  rw [List.dropLast_concat] at ho
  rw [hline, pieces_joinWith_iff (by simp), List.dropLast_concat]
  refine ⟨fun text hm hpipe => ?_, fun text hm => ho text (List.mem_append_left _ hm)⟩
  rcases List.mem_append.mp hm with hm | hm
  · exact hs text (by simp [hm]) hpipe
  · rw [List.mem_singleton.mp hm] at hpipe
    exact not_isInfix_append_opening (hs piece (by simp)) (ho piece (by simp)) hpipe

/-! ### Stages -/

/-- The texts whose trimmed forms are known, the last one apart. -/
theorem exists_concat_of_map {texts : List Text} (h : texts.map strip = init ++ [stage]) :
    ∃ front text, texts = front ++ [text] ∧ front.map strip = init ∧ strip text = stage := by
  obtain ⟨front, rest, rfl, hfront, hrest⟩ := List.map_eq_append_iff.mp h
  obtain ⟨text, rfl, htext⟩ := List.map_eq_singleton_iff.mp hrest
  exact ⟨front, text, rfl, hfront, htext⟩

/-- **The start may be trimmed** if the first stage has a character. -/
theorem stages_stripLeft (h : stages line = stage :: more) (hne : stage ≠ []) :
    stages (stripLeft line) = stages line := by
  obtain ⟨piece, rest, hp, rfl, rfl⟩ := List.map_eq_cons_iff.mp h
  rw [stages, pieces_stripLeft hp hne, stages, hp, List.map_cons, List.map_cons, strip_stripLeft]

/-- **The end may be trimmed** if the last stage has a character. -/
theorem stages_stripRight (h : stages line = init ++ [stage]) (hne : stage ≠ []) :
    stages (stripRight line) = stages line := by
  obtain ⟨front, last, hp, -, rfl⟩ := exists_concat_of_map h
  rw [stages, pieces_stripRight hp hne, stages, hp]
  simp only [List.map_append, List.map_singleton, strip_stripRight]

/-- **A last stage without a character goes**, and the stage before it ends with the bar. -/
theorem stages_stripRight_blank (h : stages line = init ++ [stage, []]) :
    ∃ piece, strip piece = stage ∧
      stages (stripRight line) = init ++ [strip (piece ++ opening)] := by
  have hpair : ∀ (texts : List Text) (a b : Text), texts ++ [a, b] = (texts ++ [a]) ++ [b] := by
    simp
  rw [hpair] at h
  obtain ⟨front, last, hp, hfront, hlast⟩ := exists_concat_of_map h
  obtain ⟨pieces', piece, rfl, rfl, hpiece⟩ := exists_concat_of_map hfront
  rw [← hpair] at hp
  refine ⟨piece, hpiece, ?_⟩
  rw [stages, pieces_stripRight_blank hp hlast, List.map_append, List.map_singleton]

/-- The bar stands behind the stage and white space. -/
theorem strip_append_opening (piece : Text) : ∃ gap, gap ≠ [] ∧ strip gap = [] ∧
    strip (piece ++ opening) = if strip piece = [] then bar else strip piece ++ gap ++ bar := by
  obtain ⟨tail, htail, hblank⟩ := exists_stripRight (stripLeft piece)
  refine ⟨tail ++ [' '], by simp, ?_, ?_⟩
  · rw [strip_append_of_blank (by decide), hblank]
  · split_ifs with h
    · rw [strip_eq, stripLeft_append_of_blank h]
      decide
    · have hopen : stripRight opening = opening := by decide
      rw [strip_eq, stripLeft_append h, stripRight_append (by decide), hopen]
      conv_lhs => rw [htail, ← strip_eq]
      simp [opening, bar]

/-- A bar at the start with white space or nothing behind it is a token. -/
theorem tokenize_bar {tail : Text} (h : ∀ c ∈ tail.head?, isBlank c = true) :
    (tokenize (bar ++ tail)).head? = some bar := by
  have hbar : Spelled bar bar := .bare_of_any (by decide)
  rw [tokenize, scan_spelling hbar (by decide)]
  cases tail with
  | nil => rfl
  | cons c rest =>
    rw [scan_space (h c rfl)]
    rfl

/-- A bar at the start stays when the line is trimmed. -/
theorem strip_bar (tail : Text) : ∃ rest, strip (bar ++ tail) = bar ++ rest ∧ rest <+: tail := by
  have hleft : stripLeft (bar ++ tail) = bar ++ tail := stripLeft_append (by decide) tail
  have hne : strip (bar ++ tail) ≠ [] := by
    rw [Ne, strip_eq_nil_iff]
    exact fun h => absurd (h '|' (by simp [bar])) (by decide)
  have hpre : strip (bar ++ tail) <+: '|' :: tail := by
    rw [strip_eq, hleft]
    exact List.rdropWhile_prefix _ _
  rcases List.prefix_cons_iff.mp hpre with h | ⟨rest, h, hrest⟩
  · exact absurd h hne
  · exact ⟨rest, h, hrest⟩

/-- **A first stage without a character goes**, and the line begins with the bar. -/
theorem stages_strip_blank (h : stages line = [] :: more) (hm : more ≠ []) :
    ∃ stage rest, stages (strip line) = stage :: rest ∧ (tokenize stage).head? = some bar := by
  obtain ⟨piece, pieces', hp, hblank, hmore⟩ := List.map_eq_cons_iff.mp h
  have hne : pieces' ≠ [] := by
    rintro rfl
    exact hm hmore.symm
  -- the line is a bar and what stands behind it, after white space
  have hleft : strip line = strip (bar ++ ' ' :: joinWith pipe pieces') := by
    have hline : line = (piece ++ [' ']) ++ (bar ++ ' ' :: joinWith pipe pieces') := by
      rw [← joinWith_pieces line, hp, joinWith_cons pipe _ hne]
      simp [pipe, bar]
    have hspace : strip (piece ++ [' ']) = [] := by
      rw [strip_append_of_blank (by decide), hblank]
    rw [hline, ← strip_stripLeft, stripLeft_append_of_blank hspace, strip_stripLeft]
  obtain ⟨tail, htail, hpre⟩ := strip_bar (' ' :: joinWith pipe pieces')
  have hfirst : ¬ pipe <+: '|' :: tail := by
    rintro ⟨rest, hrest⟩
    exact absurd (List.cons.inj hrest).1 (by decide)
  obtain ⟨first, others, hfirsts, hcons⟩ := pieces_cons hfirst
  obtain ⟨first', others', hfirsts', hinside⟩ := head_pieces_isPrefix tail
  obtain ⟨rfl, -⟩ := List.cons.inj (hfirsts.symm.trans hfirsts')
  obtain ⟨rest, hstage, hrest⟩ := strip_bar first
  refine ⟨bar ++ rest, others.map strip, ?_, tokenize_bar fun c hc => ?_⟩
  · have hbar : bar ++ tail = '|' :: tail := rfl
    rw [hleft, htail, stages, hbar, hcons, List.map_cons, ← hstage]
    rfl
  · have hne : rest ≠ [] := List.ne_nil_of_mem (List.mem_of_mem_head? hc)
    obtain ⟨d, more', rfl⟩ := List.exists_cons_of_ne_nil hne
    obtain ⟨rfl, -⟩ := List.cons_prefix_cons.mp (hrest.trans (hinside.trans hpre))
    cases hc
    rfl

/-- A line of two stages or more is not blank. -/
theorem strip_ne_nil_of_stages (h : 2 ≤ (stages line).length) : strip line ≠ [] := by
  rw [stages, List.length_map, ← isPipeline_iff_two_le, isPipeline_iff] at h
  rw [Ne, strip_eq_nil_iff]
  exact fun hblank => absurd (hblank '|' (h.subset (by simp [pipe]))) (by decide)

/-! ### Empty stages -/

/-- A line whose first stage has a character is trimmed at its end. -/
theorem stages_strip (h : stages line = stage :: more) (hne : stage ≠ []) :
    ∃ text, stages text = stage :: more ∧ strip line = stripRight text :=
  ⟨stripLeft line, (stages_stripLeft h hne).trans h, strip_eq line⟩

/-- **An empty stage that another one follows is left of a line that is trimmed**: it is empty
still, or begins with the bar that an end of the line has left. -/
theorem stages_strip_of_empty (hs : stages line = before ++ [] :: after) (hb : [] ∉ before)
    (ha : after ≠ []) : ∃ stage rest, stages (strip line) = before ++ stage :: rest ∧
      if before = [] ∨ after = [[]] then (tokenize stage).head? = some bar else stage = [] := by
  cases before with
  | nil =>
    obtain ⟨stage, rest, hstages, htoken⟩ := stages_strip_blank hs ha
    exact ⟨stage, rest, hstages, by rwa [if_pos (Or.inl rfl)]⟩
  | cons first front =>
    have hne : first ≠ [] := fun h => hb (h ▸ List.mem_cons_self)
    obtain ⟨text, htext, hstrip⟩ := stages_strip hs hne
    rw [hstrip]
    rcases List.eq_nil_or_concat' after with rfl | ⟨after, last, rfl⟩
    · exact absurd rfl ha
    by_cases hlast : last = []
    · subst hlast
      rcases List.eq_nil_or_concat' after with rfl | ⟨middle, stage, rfl⟩
      · have hend : stages text = (first :: front) ++ [[], []] := htext
        obtain ⟨piece, hpiece, hstages⟩ := stages_stripRight_blank hend
        obtain ⟨gap, -, -, hcut⟩ := strip_append_opening piece
        rw [if_pos hpiece] at hcut
        refine ⟨bar, [], by rw [hstages, hcut], ?_⟩
        rw [List.nil_append, if_pos (Or.inr rfl)]
        decide
      · have hsplit : first :: front ++ [] :: (middle ++ [stage] ++ [[]]) =
            (first :: front ++ [] :: middle) ++ [stage, []] := by simp
        obtain ⟨piece, -, hstages⟩ := stages_stripRight_blank (htext.trans hsplit)
        refine ⟨[], middle ++ [strip (piece ++ opening)], ?_, ?_⟩
        · rw [hstages]
          simp
        · have hlong : middle ++ [stage] ++ [[]] ≠ [[]] := fun h => by
            simpa using congrArg List.length h
          rw [if_neg (not_or.mpr ⟨List.cons_ne_nil _ _, hlong⟩)]
    · have hsplit : first :: front ++ [] :: (after ++ [last]) =
          (first :: front ++ [] :: after) ++ [last] := by simp
      refine ⟨[], after ++ [last], ?_, ?_⟩
      · rw [stages_stripRight (htext.trans hsplit) hlast, htext]
        rfl
      · have hmore : after ++ [last] ≠ [[]] := by
          intro heq
          have hend := congrArg List.getLast? heq
          rw [List.getLast?_concat] at hend
          exact hlast (Option.some.inj hend)
        rw [if_neg (not_or.mpr ⟨List.cons_ne_nil _ _, hmore⟩)]

/-- **An empty stage at the end is lost**: its separator is none any more, and the stage before it
ends with the bar. -/
theorem stages_strip_of_trailing (hs : stages line = before ++ [stage, []])
    (hb : [] ∉ before ++ [stage]) : ∃ gap, gap ≠ [] ∧ strip gap = [] ∧
      stages (strip line) = before ++ [stage ++ gap ++ bar] := by
  obtain ⟨text, htext, hstrip⟩ :
      ∃ text, stages text = before ++ [stage, []] ∧ strip line = stripRight text := by
    cases before with
    | nil => exact stages_strip hs fun h => hb (by simp [h])
    | cons first front => exact stages_strip hs fun h => hb (by simp [h])
  obtain ⟨piece, rfl, hstages⟩ := stages_stripRight_blank htext
  obtain ⟨gap, hgap, hblank, hcut⟩ := strip_append_opening piece
  rw [if_neg fun h => hb (by simp [h])] at hcut
  exact ⟨gap, hgap, hblank, by rw [hstrip, hstages, hcut]⟩

end CmdletShell.Proofs.Lines.Trimmed
