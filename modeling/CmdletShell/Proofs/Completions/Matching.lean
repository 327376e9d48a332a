import CmdletShell.Completion.Fuzzy
import CmdletShell.Proofs.Texts.Case

/-!
# The match in a word

A part of a word matches what is typed if it has the typed characters in order, from its first
character to its last, and no line break between two of them (`Spans`). The match that `find?` gives
is the part furthest to the left, and of those the shortest (`Best`, `find?_eq_some_iff`).

A word without line breaks has a match exactly if the typed characters occur in it in order
(`exists_best_iff`).
-/

namespace CmdletShell.Proofs.Completions.Matching

open CmdletShell.Completion CmdletShell.Text CmdletShell.Proofs.Texts.Case

variable {typed text word part gap rest : Text} {t c : Char} {found other : Match}
variable {size count : Nat}

/-! ### Matches -/

/-- The typed characters stand in order in a text, the first one at its start and the last one at
its end; no line break stands between two of them. -/
inductive Spans : Text → Text → Prop
  | nil : Spans [] []
  | last {t c : Char} : sameFolded t c = true → Spans [t] [c]
  | cons {t next c : Char} {typed gap part : Text} : sameFolded t c = true → '\n' ∉ gap →
      Spans (next :: typed) part → Spans (t :: next :: typed) (c :: (gap ++ part))

/-- A match of a length stands at the start of a text. -/
def Starts (typed text : Text) (size : Nat) : Prop :=
  ∃ part rest, text = part ++ rest ∧ part.length = size ∧ Spans typed part

/-- A match ends after a length, and no line break stands before it. -/
def Leads (typed text : Text) (size : Nat) : Prop :=
  ∃ gap rest count, text = gap ++ rest ∧ '\n' ∉ gap ∧ gap.length + count = size ∧
    Starts typed rest count ∧ (typed = [] → gap = [])

/-- **A match stands in a word**, at its place and with its length. -/
def Occurs (typed word : Text) (found : Match) : Prop :=
  ∃ front text, word = front ++ text ∧ front.length = found.start ∧ Starts typed text found.size

/-- **The best match in a word**: the one furthest to the left, and of those the shortest. -/
structure Best (typed word : Text) (found : Match) : Prop where
  occurs : Occurs typed word found
  le : ∀ other, Occurs typed word other → found.le other = true

/-- A typed character that is no line break does not match one. -/
theorem ne_newline_of_sameFolded (ht : t ≠ '\n') (h : sameFolded t c = true) : c ≠ '\n' := by
  rintro rfl
  have hfold : foldCase t = foldCase '\n' := eq_of_beq h
  rw [foldCase_eq_newline.mpr rfl, foldCase_eq_newline] at hfold
  exact ht hfold

/-! ### Matches by their first character -/

theorem starts_nil_iff : Starts [] text size ↔ size = 0 := by
  constructor
  · rintro ⟨_, rest, -, rfl, hspans⟩
    cases hspans
    rfl
  · rintro rfl
    exact ⟨[], text, rfl, rfl, .nil⟩

theorem not_starts_of_nil : ¬ Starts (t :: typed) [] size := by
  rintro ⟨part, rest, htext, -, hspans⟩
  obtain ⟨rfl, -⟩ := List.append_eq_nil_iff.mp htext.symm
  cases hspans

theorem leads_nil_iff : Leads [] text size ↔ size = 0 := by
  constructor
  · rintro ⟨gap, rest, count, -, -, rfl, hstarts, hgap⟩
    rw [hgap rfl, starts_nil_iff.mp hstarts]
    rfl
  · rintro rfl
    exact ⟨[], text, 0, rfl, List.not_mem_nil, rfl, starts_nil_iff.mpr rfl, fun _ => rfl⟩

/-- A match begins with the first typed character, and the others follow. -/
theorem starts_cons_iff : Starts (t :: typed) (c :: rest) size ↔
    sameFolded t c = true ∧ ∃ count, size = count + 1 ∧ Leads typed rest count := by
  constructor
  · rintro ⟨_, after, htext, rfl, hspans⟩
    cases hspans with
    | last hs =>
      obtain ⟨rfl, rfl⟩ := List.cons.inj htext
      exact ⟨hs, 0, rfl, leads_nil_iff.mpr rfl⟩
    | @cons _ next _ typed gap part hs hgap hpart =>
      obtain ⟨rfl, rfl⟩ := List.cons.inj htext
      exact ⟨hs, gap.length + part.length, by simp, gap, part ++ after, part.length,
        List.append_assoc gap part after, hgap, rfl, ⟨part, after, rfl, rfl, hpart⟩,
        fun hnil => absurd hnil (List.cons_ne_nil _ _)⟩
  · rintro ⟨hs, count, rfl, gap, text, after, rfl, hgap, rfl, ⟨part, rest, rfl, rfl, hspans⟩, hnil⟩
    cases typed with
    | nil =>
      cases hspans
      rw [hnil rfl]
      exact ⟨[c], rest, rfl, rfl, .last hs⟩
    | cons next typed =>
      exact ⟨c :: (gap ++ part), rest, by simp, by simp, .cons hs hgap hspans⟩

theorem leads_of_starts (h : Starts typed text size) : Leads typed text size :=
  ⟨[], text, size, rfl, List.not_mem_nil, Nat.zero_add size, h, fun _ => rfl⟩

/-- A match begins here, or further on in the line. -/
theorem leads_cons_iff : Leads (t :: typed) (c :: rest) size ↔
    Starts (t :: typed) (c :: rest) size ∨
      c ≠ '\n' ∧ ∃ count, size = count + 1 ∧ Leads (t :: typed) rest count := by
  constructor
  · rintro ⟨gap, after, count, htext, hgap, rfl, hstarts, -⟩
    cases gap with
    | nil =>
      rw [List.nil_append] at htext
      rw [htext, List.length_nil, Nat.zero_add]
      exact Or.inl hstarts
    | cons d gap =>
      obtain ⟨rfl, rfl⟩ := List.cons.inj htext
      obtain ⟨hd, hgap⟩ := List.ne_and_not_mem_of_not_mem_cons hgap
      refine Or.inr ⟨hd.symm, gap.length + count, by simp; omega, gap, after, count, rfl, hgap, rfl,
        hstarts, fun hnil => absurd hnil (List.cons_ne_nil _ _)⟩
  · rintro (hstarts | ⟨hc, count, rfl, gap, after, inner, rfl, hgap, rfl, hstarts, -⟩)
    · exact leads_of_starts hstarts
    · refine ⟨c :: gap, after, inner, rfl, ?_, by simp; omega, hstarts,
        fun hnil => absurd hnil (List.cons_ne_nil _ _)⟩
      rw [List.mem_cons, not_or]
      exact ⟨hc.symm, hgap⟩

theorem not_leads_of_nil : ¬ Leads (t :: typed) [] size := by
  rintro ⟨gap, rest, count, htext, -, -, hstarts, -⟩
  obtain ⟨-, rfl⟩ := List.append_eq_nil_iff.mp htext.symm
  exact not_starts_of_nil hstarts

/-- What is found further on in a line is found from here. -/
theorem exists_leads_cons (hc : c ≠ '\n') (h : Leads typed rest count) :
    ∃ size ≤ count + 1, Leads typed (c :: rest) size := by
  cases typed with
  | nil => exact ⟨0, Nat.zero_le _, leads_nil_iff.mpr rfl⟩
  | cons t typed =>
    exact ⟨count + 1, Nat.le_refl _, leads_cons_iff.mpr (Or.inr ⟨hc, count, rfl, h⟩)⟩

/-- Where the typed characters occur, all but the first one occur too, and end no later. -/
theorem exists_leads_tail (ht : t ≠ '\n') : ∀ {text : Text} {size : Nat},
    Leads (t :: typed) text size → ∃ count ≤ size, Leads typed text count
  | [], _, h => absurd h not_leads_of_nil
  | c :: rest, size, h => by
    rcases leads_cons_iff.mp h with hstarts | ⟨hc, count, rfl, hleads⟩
    · obtain ⟨hs, count, rfl, hleads⟩ := starts_cons_iff.mp hstarts
      exact exists_leads_cons (ne_newline_of_sameFolded ht hs) hleads
    · obtain ⟨shorter, hle, htail⟩ := exists_leads_tail ht hleads
      obtain ⟨least, hleast, hfrom⟩ := exists_leads_cons hc htail
      exact ⟨least, by omega, hfrom⟩

/-! ### The shortest start -/

theorem leads_of_reach : ∀ {typed text : Text} {size : Nat},
    reach typed text = some size → Leads typed text size
  | [], text, size, h => by
    rw [reach, Option.some.injEq] at h
    exact leads_nil_iff.mpr h.symm
  | t :: typed, [], size, h => by cases h
  | t :: typed, c :: rest, size, h => by
    rw [reach] at h
    split_ifs at h with hs hc
    · obtain ⟨count, hcount, rfl⟩ := Option.map_eq_some_iff.mp h
      exact leads_of_starts (starts_cons_iff.mpr ⟨hs, count, rfl, leads_of_reach hcount⟩)
    · obtain ⟨count, hcount, rfl⟩ := Option.map_eq_some_iff.mp h
      exact leads_cons_iff.mpr (Or.inr ⟨hc, count, rfl, leads_of_reach hcount⟩)

/-- Taking each typed character at its first place gives the shortest start. -/
theorem exists_reach : ∀ {typed text : Text} {size : Nat}, '\n' ∉ typed →
    Leads typed text size → ∃ least ≤ size, reach typed text = some least
  | [], text, size, _, _ => ⟨0, Nat.zero_le size, by rw [reach]⟩
  | t :: typed, [], size, _, h => absurd h not_leads_of_nil
  | t :: typed, c :: rest, size, hline, h => by
    obtain ⟨ht, htyped⟩ := List.ne_and_not_mem_of_not_mem_cons hline
    by_cases hs : sameFolded t c = true
    · have htail : ∃ count, count + 1 ≤ size ∧ Leads typed rest count := by
        rcases leads_cons_iff.mp h with hstarts | ⟨-, count, rfl, hleads⟩
        · obtain ⟨-, count, rfl, hleads⟩ := starts_cons_iff.mp hstarts
          exact ⟨count, Nat.le_refl _, hleads⟩
        · obtain ⟨shorter, hle, hleads⟩ := exists_leads_tail ht.symm hleads
          exact ⟨shorter, by omega, hleads⟩
      obtain ⟨count, hcount, hleads⟩ := htail
      obtain ⟨least, hleast, hreach⟩ := exists_reach htyped hleads
      refine ⟨least + 1, by omega, ?_⟩
      rw [reach, if_pos hs, hreach]
      rfl
    · rcases leads_cons_iff.mp h with hstarts | ⟨hc, count, rfl, hleads⟩
      · exact absurd (starts_cons_iff.mp hstarts).1 hs
      · obtain ⟨least, hleast, hreach⟩ := exists_reach hline hleads
        refine ⟨least + 1, by omega, ?_⟩
        rw [reach, if_neg hs, if_neg hc, hreach]
        rfl

/-! ### The match furthest to the left -/

/-- The length of the shortest match at the start of a text that is not empty. -/
def here (typed : Text) (c : Char) (rest : Text) : Option Nat :=
  match typed with
  | [] => some 0
  | t :: _ => if sameFolded t c then reach typed (c :: rest) else none

theorem find?_cons (typed : Text) (c : Char) (rest : Text) : Match.find? typed (c :: rest) =
    match here typed c rest with
    | some size => some ⟨0, size⟩
    | none => (Match.find? typed rest).map fun found => { found with start := found.start + 1 } :=
  rfl

theorem starts_of_here (h : here typed c rest = some size) : Starts typed (c :: rest) size := by
  cases typed with
  | nil =>
    cases h
    exact starts_nil_iff.mpr rfl
  | cons t typed =>
    unfold here at h
    dsimp only at h
    split_ifs at h with hs
    rw [reach, if_pos hs] at h
    obtain ⟨count, hcount, rfl⟩ := Option.map_eq_some_iff.mp h
    exact starts_cons_iff.mpr ⟨hs, count, rfl, leads_of_reach hcount⟩

theorem exists_here (hline : '\n' ∉ typed) (h : Starts typed (c :: rest) size) :
    ∃ least ≤ size, here typed c rest = some least := by
  cases typed with
  | nil => exact ⟨0, Nat.zero_le size, rfl⟩
  | cons t typed =>
    obtain ⟨least, hleast, hreach⟩ := exists_reach hline (leads_of_starts h)
    refine ⟨least, hleast, ?_⟩
    unfold here
    dsimp only
    rw [if_pos (starts_cons_iff.mp h).1, hreach]

/-- A match that starts one character further on. -/
def later (found : Match) : Match := { found with start := found.start + 1 }

theorem occurs_nil_iff : Occurs typed [] found ↔ typed = [] ∧ found = ⟨0, 0⟩ := by
  constructor
  · rintro ⟨front, text, hword, hstart, hstarts⟩
    obtain ⟨rfl, rfl⟩ := List.append_eq_nil_iff.mp hword.symm
    cases typed with
    | nil =>
      obtain ⟨start, size⟩ := found
      obtain rfl : 0 = start := hstart
      obtain rfl : size = 0 := starts_nil_iff.mp hstarts
      exact ⟨rfl, rfl⟩
    | cons t typed => exact absurd hstarts not_starts_of_nil
  · rintro ⟨rfl, rfl⟩
    exact ⟨[], [], rfl, rfl, starts_nil_iff.mpr rfl⟩

theorem occurs_cons_iff : Occurs typed (c :: rest) found ↔
    found.start = 0 ∧ Starts typed (c :: rest) found.size ∨
      ∃ other, found = later other ∧ Occurs typed rest other := by
  obtain ⟨start, size⟩ := found
  constructor
  · rintro ⟨front, text, hword, hstart, hstarts⟩
    cases front with
    | nil =>
      rw [List.nil_append] at hword
      rw [hword]
      exact Or.inl ⟨hstart.symm, hstarts⟩
    | cons d front =>
      obtain ⟨rfl, rfl⟩ := List.cons.inj hword
      obtain rfl : front.length + 1 = start := hstart
      exact Or.inr ⟨⟨front.length, size⟩, rfl, front, text, rfl, rfl, hstarts⟩
  · rintro (⟨hstart, hstarts⟩ | ⟨other, hother, front, text, rfl, hfront, hstarts⟩)
    · exact ⟨[], c :: rest, rfl, hstart.symm, hstarts⟩
    · obtain ⟨rfl, rfl⟩ := Match.mk.inj hother
      exact ⟨c :: front, text, rfl, congrArg (· + 1) hfront, hstarts⟩

theorem le_iff : found.le other = true ↔
    found.start < other.start ∨ found.start = other.start ∧ found.size ≤ other.size := by
  simp [Match.le]

theorem best_of_find? (hline : '\n' ∉ typed) : ∀ {word : Text} {found : Match},
    Match.find? typed word = some found → Best typed word found
  | [], found, h => by
    rw [Match.find?] at h
    split_ifs at h with hnil
    cases h
    rw [List.isEmpty_iff] at hnil
    refine ⟨occurs_nil_iff.mpr ⟨hnil, rfl⟩, fun other ho => ?_⟩
    rw [(occurs_nil_iff.mp ho).2]
    rfl
  | c :: rest, found, h => by
    rw [find?_cons] at h
    cases hhere : here typed c rest with
    | some size =>
      rw [hhere] at h
      cases h
      refine ⟨occurs_cons_iff.mpr (Or.inl ⟨rfl, starts_of_here hhere⟩), fun other ho => ?_⟩
      rw [le_iff]
      rcases occurs_cons_iff.mp ho with ⟨hstart, hstarts⟩ | ⟨next, rfl, -⟩
      · obtain ⟨least, hleast, hsome⟩ := exists_here hline hstarts
        rw [hhere, Option.some.injEq] at hsome
        exact Or.inr ⟨hstart.symm, hsome ▸ hleast⟩
      · exact Or.inl (Nat.succ_pos _)
    | none =>
      rw [hhere] at h
      obtain ⟨next, hnext, rfl⟩ := Option.map_eq_some_iff.mp h
      obtain ⟨hoccurs, hbest⟩ := best_of_find? hline hnext
      refine ⟨occurs_cons_iff.mpr (Or.inr ⟨next, rfl, hoccurs⟩), fun other hother => ?_⟩
      rcases occurs_cons_iff.mp hother with ⟨-, hstarts⟩ | ⟨other, rfl, ho⟩
      · obtain ⟨least, -, hsome⟩ := exists_here hline hstarts
        rw [hhere] at hsome
        cases hsome
      · have hle := le_iff.mp (hbest other ho)
        rw [le_iff]
        unfold later
        dsimp only
        omega

theorem exists_find? (hline : '\n' ∉ typed) : ∀ {word : Text} {found : Match},
    Occurs typed word found → ∃ best, Match.find? typed word = some best
  | [], found, h => by
    obtain ⟨rfl, -⟩ := occurs_nil_iff.mp h
    exact ⟨⟨0, 0⟩, rfl⟩
  | c :: rest, found, h => by
    rw [find?_cons]
    cases hhere : here typed c rest with
    | some size => exact ⟨⟨0, size⟩, rfl⟩
    | none =>
      rcases occurs_cons_iff.mp h with ⟨-, hstarts⟩ | ⟨other, -, ho⟩
      · obtain ⟨least, -, hsome⟩ := exists_here hline hstarts
        rw [hhere] at hsome
        cases hsome
      · obtain ⟨best, hbest⟩ := exists_find? hline ho
        exact ⟨later best, by rw [hbest]; rfl⟩

theorem Best.unique (h : Best typed word found) (h' : Best typed word other) : found = other := by
  have hle := le_iff.mp (h.le other h'.occurs)
  have hge := le_iff.mp (h'.le found h.occurs)
  obtain ⟨start, size⟩ := found
  obtain ⟨start', size'⟩ := other
  dsimp only at hle hge
  rw [Match.mk.injEq]
  omega

/-- **The match that is found is the best one.** -/
theorem find?_eq_some_iff (hline : '\n' ∉ typed) :
    Match.find? typed word = some found ↔ Best typed word found := by
  refine ⟨best_of_find? hline, fun h => ?_⟩
  obtain ⟨best, hbest⟩ := exists_find? hline h.occurs
  rw [hbest, h.unique (best_of_find? hline hbest)]

/-! ### Words without line breaks -/

/-- The typed characters occur in a word in order, in any letter case. -/
def InOrder (typed word : Text) : Prop :=
  ∃ picked, picked.Sublist word ∧ List.Forall₂ (fun t c => sameFolded t c = true) typed picked

theorem inOrder_of_spans (h : Spans typed part) : InOrder typed part := by
  induction h with
  | nil => exact ⟨[], List.Sublist.refl [], .nil⟩
  | last hs => exact ⟨_, List.Sublist.refl _, .cons hs .nil⟩
  | @cons _ _ c _ gap part hs _ _ ih =>
    obtain ⟨picked, hsub, hsame⟩ := ih
    exact ⟨c :: picked, (hsub.trans (List.sublist_append_right gap part)).cons_cons c,
      .cons hs hsame⟩

theorem inOrder_of_occurs (h : Occurs typed word found) : InOrder typed word := by
  obtain ⟨front, text, rfl, -, part, rest, rfl, -, hspans⟩ := h
  obtain ⟨picked, hsub, hsame⟩ := inOrder_of_spans hspans
  have hpart : part.Sublist (part ++ rest) := List.sublist_append_left part rest
  exact ⟨picked, (hsub.trans hpart).trans (List.sublist_append_right front _), hsame⟩

/-- By induction on what is typed: the other characters occur after the first one. -/
theorem exists_leads : ∀ {typed word : Text}, '\n' ∉ word → InOrder typed word →
    ∃ size, Leads typed word size
  | [], _, _, _ => ⟨0, leads_nil_iff.mpr rfl⟩
  | t :: typed, word, hline, ⟨c :: _, hsub, .cons hs hsame⟩ => by
    obtain ⟨first, after, rfl, hc, htail⟩ := List.cons_sublist_iff.mp hsub
    obtain ⟨gap, rest, rfl⟩ := List.append_of_mem hc
    rw [List.append_assoc, List.mem_append, not_or] at hline
    have hrest : '\n' ∉ rest ++ after := fun h => hline.2 (List.mem_cons_of_mem c h)
    have hinner : InOrder typed (rest ++ after) :=
      ⟨_, htail.trans (List.sublist_append_right rest after), hsame⟩
    obtain ⟨count, hleads⟩ := exists_leads hrest hinner
    have hstarts : Starts (t :: typed) (c :: (rest ++ after)) (count + 1) :=
      starts_cons_iff.mpr ⟨hs, count, rfl, hleads⟩
    exact ⟨gap.length + (count + 1), gap, c :: (rest ++ after), count + 1,
      List.append_assoc gap (c :: rest) after, hline.1, rfl, hstarts,
      fun hnil => absurd hnil (List.cons_ne_nil _ _)⟩

/-- **A word without line breaks has a match** exactly if the typed characters occur in order. -/
theorem exists_best_iff (htyped : '\n' ∉ typed) (hword : '\n' ∉ word) :
    (∃ found, Best typed word found) ↔ InOrder typed word := by
  constructor
  · rintro ⟨found, hbest⟩
    exact inOrder_of_occurs hbest.occurs
  · intro h
    obtain ⟨size, gap, rest, count, hgap, -, -, hstarts, -⟩ := exists_leads hword h
    have ho : Occurs typed word ⟨gap.length, count⟩ := ⟨gap, rest, hgap, rfl, hstarts⟩
    obtain ⟨best, hbest⟩ := exists_find? htyped ho
    exact ⟨best, best_of_find? htyped hbest⟩

end CmdletShell.Proofs.Completions.Matching
