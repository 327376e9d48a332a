import CmdletShell.Proofs.Lines.Quoting
import CmdletShell.Proofs.Lines.Trimmed

/-!
# Lines without quotes

White space cuts a text into its words, whatever stands around it (`words_append_blank`). The words
of a line without quotes are its tokens (`tokenize_eq_words`), and the first of them is that of its
first stage (`head?_tokenize`). The word at the end of a text
(`lastRun`) is empty if the text ends with white space, and its last word otherwise
(`words_eq_append_lastRun`).
-/

namespace CmdletShell.Proofs.Lines.Unquoted

open CmdletShell.Line CmdletShell.Text
open CmdletShell.Proofs.Lines.Strip CmdletShell.Proofs.Lines.Stages
open CmdletShell.Proofs.Lines.Joined CmdletShell.Proofs.Lines.Quoting
open CmdletShell.Proofs.Lines.Trimmed

variable {text front rest word : Text} {c : Char}

/-! ### Words -/

/-- A character that white space or nothing follows is a word. -/
theorem words_cons_end (hc : isBlank c = false) (h : ∀ d ∈ rest.head?, isBlank d = true) :
    words (c :: rest) = [c] :: words rest := by
  rw [words, if_neg (by simp [hc])]
  cases rest with
  | nil => rfl
  | cons d rest =>
    have hd : isBlank d = true := h d rfl
    dsimp only [List.head?_cons]
    cases words (d :: rest) with
    | nil => rfl
    | cons word more => exact if_pos hd

/-- A character before a word belongs to it. -/
theorem words_cons_cons {d : Char} {more : List Text} (hc : isBlank c = false)
    (hd : isBlank d = false) (h : words (d :: rest) = word :: more) :
    words (c :: d :: rest) = (c :: word) :: more := by
  rw [words, if_neg (by simp [hc]), h]
  exact if_neg (by simp [hd])

theorem words_ne_nil (hc : isBlank c = false) (rest : Text) : words (c :: rest) ≠ [] := by
  rw [words, if_neg (by simp [hc])]
  split
  · split_ifs <;> exact List.cons_ne_nil _ _
  · exact List.cons_ne_nil _ _

/-- **White space cuts a text in two**, each with words of its own. -/
theorem words_append_blank (hc : isBlank c = true) (rest : Text) : ∀ front : Text,
    words (front ++ c :: rest) = words front ++ words rest
  | [] => words_of_isBlank hc rest
  | d :: front => by
    have ih := words_append_blank hc rest front
    by_cases hd : isBlank d = true
    · rw [List.cons_append, words_of_isBlank hd, words_of_isBlank hd, ih]
    rw [Bool.not_eq_true] at hd
    cases front with
    | nil =>
      have hend : words [d] = [[d]] := words_cons_end hd (by simp)
      rw [List.nil_append, words_of_isBlank hc] at ih
      rw [List.singleton_append, words_cons_end hd (by simpa using hc), hend,
        words_of_isBlank hc, List.singleton_append]
    | cons e front =>
      by_cases he : isBlank e = true
      · have hnext : ∀ tail, ∀ x ∈ (e :: tail : Text).head?, isBlank x = true := by
          intro tail x hx
          cases hx
          exact he
        rw [List.cons_append, List.cons_append] at *
        rw [words_cons_end hd (hnext _), words_cons_end hd (hnext _), ih, List.cons_append]
      · rw [Bool.not_eq_true] at he
        obtain ⟨word, more, hw⟩ := List.exists_cons_of_ne_nil (words_ne_nil he front)
        rw [hw, List.cons_append, List.cons_append] at ih
        rw [List.cons_append, List.cons_append, words_cons_cons hd he ih,
          words_cons_cons hd he hw, List.cons_append]

/-- Nothing but white space has no words. -/
theorem words_of_blank (h : strip text = []) : words text = [] := by
  rw [strip_eq_nil_iff] at h
  induction text with
  | nil => rfl
  | cons c text ih =>
    obtain ⟨hc, htext⟩ := List.forall_mem_cons.mp h
    rw [words_of_isBlank hc, ih htext]

/-- Only white space has no words. -/
theorem strip_of_words_eq_nil (h : words text = []) : strip text = [] := by
  rw [strip_eq_nil_iff]
  induction text with
  | nil => exact fun _ hc => absurd hc List.not_mem_nil
  | cons c text ih =>
    cases hc : isBlank c with
    | false => exact absurd h (words_ne_nil hc text)
    | true =>
      rw [words_of_isBlank hc] at h
      exact List.forall_mem_cons.mpr ⟨hc, ih h⟩

/-- A text without white space is one word. -/
theorem words_of_run (hne : word ≠ []) (h : ∀ c ∈ word, isBlank c = false) :
    words word = [word] := by
  induction word with
  | nil => exact absurd rfl hne
  | cons c word ih =>
    obtain ⟨hc, hword⟩ := List.forall_mem_cons.mp h
    cases word with
    | nil => exact words_cons_end hc (by simp)
    | cons d word =>
      exact words_cons_cons hc (hword d List.mem_cons_self) (ih (List.cons_ne_nil d word) hword)

theorem words_append_of_blank (h : strip rest = []) (front : Text) :
    words (front ++ rest) = words front := by
  cases rest with
  | nil => rw [List.append_nil]
  | cons c rest =>
    obtain ⟨hc, hrest⟩ := List.forall_mem_cons.mp (strip_eq_nil_iff.mp h)
    rw [words_append_blank hc, words_of_blank (strip_eq_nil_iff.mpr hrest), List.append_nil]

theorem words_stripLeft (text : Text) : words (stripLeft text) = words text := by
  induction text with
  | nil => rfl
  | cons c text ih =>
    unfold stripLeft dropLeft at ih ⊢
    rw [List.dropWhile_cons]
    split_ifs with hc
    · rw [ih, words_of_isBlank hc]
    · rfl

/-- A text has the words of what is left when it is trimmed. -/
theorem words_strip (text : Text) : words (strip text) = words text := by
  obtain ⟨tail, htail, hblank⟩ := exists_stripRight (stripLeft text)
  rw [← words_stripLeft text, htail, words_append_of_blank hblank, strip_eq]

/-! ### Tokens -/

/-- Without quotes the scan goes on with the word in hand. By induction on what is left. -/
theorem scan_eq_words : ∀ (rest word : Text), '"' ∉ rest → (∀ c ∈ word, isBlank c = false) →
    scan false word rest = words (word ++ rest)
  | [], word, _, hw => by
    rw [scan, flush, List.append_nil]
    by_cases hne : word = []
    · rw [hne]
      rfl
    · rw [if_neg (by simpa using hne), words_of_run hne hw]
  | c :: rest, word, hq, hw => by
    obtain ⟨hc, hrest⟩ := List.ne_and_not_mem_of_not_mem_cons hq
    cases hb : isBlank c with
    | true =>
      have hflush := scan_eq_words [] word List.not_mem_nil hw
      rw [scan, List.append_nil] at hflush
      rw [scan_space hb, words_append_blank hb, hflush, scan_eq_words rest [] hrest (by simp),
        List.nil_append]
    | false =>
      have hsnoc : ∀ d ∈ word ++ [c], isBlank d = false := by
        intro d hd
        rcases List.mem_append.mp hd with hd | hd
        · exact hw d hd
        · rwa [List.mem_singleton.mp hd]
      rw [scan, if_neg hc.symm, hb, Bool.false_and, if_neg Bool.false_ne_true,
        scan_eq_words rest (word ++ [c]) hrest hsnoc, List.append_assoc, List.singleton_append]

/-- **The tokens of a line without quotes are its words.** -/
theorem tokenize_eq_words (h : '"' ∉ text) : tokenize text = words text :=
  scan_eq_words text [] h (by simp)

/-- The first token of a trimmed line without quotes is that of its first stage. -/
theorem head?_tokenize {stage : Text} {later : List Text} (hq : '"' ∉ line) (hl : strip line = line)
    (hs : stages line = stage :: later) : (tokenize line).head? = (tokenize stage).head? := by
  obtain ⟨piece, more, hp⟩ := List.exists_cons_of_ne_nil (pieces_ne_nil line)
  have hline := joinWith_pieces line
  rw [stages, hp] at hs
  obtain ⟨rfl, -⟩ := List.cons.inj hs
  rw [hp] at hline
  by_cases hm : more = []
  · rw [hm, joinWith_singleton] at hline
    rw [hline, hl]
  rw [joinWith_cons pipe piece hm, List.append_assoc] at hline
  have hpiece : '"' ∉ strip piece := by
    intro hmem
    refine hq ?_
    rw [← hline]
    exact List.mem_append_left _ ((strip_isInfix piece).subset hmem)
  have hwords : words line = words piece ++ words ('|' :: ' ' :: joinWith pipe more) := by
    conv_lhs => rw [← hline]
    exact words_append_blank isBlank_space _ piece
  have hne : words piece ≠ [] := by
    intro hnil
    have hblank := strip_eq_nil_iff.mp (strip_of_words_eq_nil hnil)
    have hfirst := (trim_eq_self_iff.mp hl).1
    rw [← hline] at hfirst
    cases piece with
    | nil => exact absurd (hfirst ' ' rfl) (by decide)
    | cons c piece =>
      have hc := hfirst c rfl
      rw [hblank c List.mem_cons_self] at hc
      cases hc
  rw [tokenize_eq_words hq, tokenize_eq_words hpiece, words_strip, hwords,
    List.head?_append_of_ne_nil _ hne]

/-! ### The word at the end -/

/-- The characters after the last white space. -/
def lastRun (text : Text) : Text := text.rtakeWhile fun c => !isBlank c

/-- The text ends with white space, or is empty. -/
def Ended (text : Text) : Prop := ∀ c ∈ text.getLast?, isBlank c = true

theorem lastRun_suffix (text : Text) : lastRun text <:+ text := List.rtakeWhile_suffix _ text

theorem isBlank_of_mem_lastRun (h : c ∈ lastRun text) : isBlank c = false := by
  have hrun := List.mem_rtakeWhile_imp h
  rwa [Bool.not_eq_true'] at hrun

theorem lastRun_eq_nil_iff : lastRun text = [] ↔ Ended text := by
  rw [lastRun, List.rtakeWhile_eq_nil_iff]
  constructor
  · intro h c hc
    have hne : text ≠ [] := List.ne_nil_of_mem (List.mem_of_getLast? hc)
    rw [Option.mem_def, List.getLast?_eq_some_getLast hne, Option.some.injEq] at hc
    simpa [hc] using h hne
  · intro h hne
    have hlast := h (text.getLast hne) (List.getLast?_eq_some_getLast hne)
    simp [hlast]

theorem lastRun_append (hf : Ended front) (rest : Text) :
    lastRun (front ++ rest) = lastRun rest := by
  induction rest using List.reverseRecOn with
  | nil => rw [List.append_nil, lastRun_eq_nil_iff.mpr hf, lastRun, List.rtakeWhile_nil]
  | append_singleton rest c ih =>
    rw [lastRun, lastRun, ← List.append_assoc, List.rtakeWhile_concat, List.rtakeWhile_concat]
    split_ifs
    · exact congrArg (· ++ [c]) ih
    · rfl

/-- What stands before the word at the end is empty or ends with white space. -/
theorem exists_lastRun (text : Text) : ∃ front, text = front ++ lastRun text ∧ Ended front := by
  refine ⟨text.rdropWhile fun c => !isBlank c, List.rdropWhile_append_rtakeWhile.symm, ?_⟩
  intro c hc
  have hne := List.ne_nil_of_mem (List.mem_of_getLast? hc)
  have hnot := List.rdropWhile_last_not _ _ hne
  rw [Option.mem_def, List.getLast?_eq_some_getLast hne, Option.some.injEq] at hc
  simpa [hc] using hnot

/-- **The word at the end is the last word**, unless white space stands there. -/
theorem words_eq_append_lastRun (h : lastRun text ≠ []) :
    ∃ before, words text = before ++ [lastRun text] := by
  obtain ⟨front, htext, hfront⟩ := exists_lastRun text
  have hrun := words_of_run h fun c hc => isBlank_of_mem_lastRun hc
  rcases List.eq_nil_or_concat' front with rfl | ⟨init, b, rfl⟩
  · exact ⟨[], by rw [List.nil_append, ← hrun, ← List.nil_append (lastRun text), ← htext]⟩
  · have hb : isBlank b = true := hfront b (by simp)
    rw [List.append_assoc, List.singleton_append] at htext
    refine ⟨words init, ?_⟩
    conv_lhs => rw [htext]
    rw [words_append_blank hb, hrun]

end CmdletShell.Proofs.Lines.Unquoted
