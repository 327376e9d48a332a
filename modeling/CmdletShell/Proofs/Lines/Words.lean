import CmdletShell.Proofs.Lines.Quoting
import CmdletShell.Proofs.Lines.Strip

/-!
# Lines of words

A token may be written with quotes from some place on, so that only what stands before the quotes
must be free of white space (`Word`). A line of words, with a space between two of them, has their
tokens (`tokenize_line`), and there is nothing to trim (`strip_line`).
-/

namespace CmdletShell.Proofs.Lines.Words

open CmdletShell.Line CmdletShell.Text
open CmdletShell.Proofs.Lines.Strip CmdletShell.Proofs.Lines.Quoting

/-- A text in quotes. -/
def enquoted (text : Text) : Text := '"' :: (text ++ ['"'])

/-- **The ways to write a token as a word.** -/
inductive Word : Text → Text → Prop
  /-- As it is. -/
  | bare {token} : (∀ c ∈ token, isBlank c = false) → Word token token
  /-- In quotes from some place on. -/
  | quoted {front text} : (∀ c ∈ front, isBlank c = false) →
      Word (front ++ text) (front ++ enquoted text)

variable {token word : Text} {tokens words : List Text}

theorem word_enquoted (text : Text) : Word text (enquoted text) := by
  have hfront : ∀ c ∈ ([] : Text), isBlank c = false := forall_iff_any.mpr rfl
  have hword : Word ([] ++ text) ([] ++ enquoted text) := .quoted hfront
  exact hword

/-- A word puts its token into the hand, and leaves the scan outside quotes. -/
theorem scan_word (h : Word token word) (ht : '"' ∉ token) (rest : Text) :
    scan false [] (word ++ rest) = scan false token rest := by
  cases h with
  | bare hb => rw [scan_bare token [] rest ht hb, List.nil_append]
  | @quoted front text hb =>
    rw [List.mem_append, not_or] at ht
    rw [List.append_assoc, scan_bare front [] _ ht.1 hb, List.nil_append, enquoted,
      List.cons_append, scan_quote, List.append_assoc, Bool.not_false,
      scan_inside text front _ ht.2, List.singleton_append, scan_quote, Bool.not_true]

theorem Word.ne_nil (h : Word token word) (ht : token ≠ []) : word ≠ [] := by
  cases h with
  | bare => exact ht
  | quoted => exact List.append_ne_nil_of_right_ne_nil _ (List.cons_ne_nil _ _)

/-- A word neither begins nor ends with white space, even if its token does. -/
theorem Word.hasEnds (h : Word token word) : HasEnds isBlank word := by
  have hq : isBlank '"' = false := by decide
  cases h with
  | bare hb => exact ⟨fun c hc => hb c (List.mem_of_mem_head? hc),
      fun c hc => hb c (List.mem_of_getLast? hc)⟩
  | @quoted front text hb =>
    constructor
    · intro c hc
      cases front with
      | nil =>
        cases hc
        exact hq
      | cons d front =>
        have hd : d = c := Option.some.inj hc
        rw [← hd]
        exact hb d List.mem_cons_self
    · intro c hc
      have hlast : (front ++ enquoted text).getLast? = some '"' := by
        rw [enquoted, ← List.cons_append, ← List.append_assoc, List.getLast?_concat]
      rw [hlast] at hc
      cases hc
      exact hq

/-! ### Lines -/

/-- A line of words, with a space between two of them. -/
def lineOf (words : List Text) : Text := joinWith [' '] words

theorem lineOf_singleton (word : Text) : lineOf [word] = word := by
  rw [lineOf, joinWith, List.intercalate_singleton]

theorem lineOf_cons_cons (word next : Text) (words : List Text) :
    lineOf (word :: next :: words) = word ++ ' ' :: lineOf (next :: words) := by
  rw [lineOf, joinWith, List.intercalate_cons_cons, List.append_assoc, List.singleton_append]
  rfl

/-- **The tokens of a line of words** are those that the words write. -/
theorem tokenize_line (h : List.Forall₂ Word tokens words) (ht : ∀ token ∈ tokens, IsToken token) :
    tokenize (lineOf words) = tokens := by
  unfold tokenize
  induction h with
  | nil => rfl
  | @cons token word tokens words hw hrest ih =>
    have htoken := ht token List.mem_cons_self
    have hline := ih fun other ho => ht other (.tail _ ho)
    cases hrest with
    | nil =>
      have hscan := scan_word hw htoken.unquoted []
      rw [List.append_nil] at hscan
      rw [lineOf_singleton, hscan, scan, flush_token htoken]
    | cons =>
      rw [lineOf_cons_cons, scan_word hw htoken.unquoted, scan_space isBlank_space,
        flush_token htoken, hline]
      rfl

theorem lineOf_ne_nil (hne : word ≠ []) (words : List Text) : lineOf (word :: words) ≠ [] := by
  cases words with
  | nil => rwa [lineOf_singleton]
  | cons next words =>
    rw [lineOf_cons_cons]
    exact List.append_ne_nil_of_left_ne_nil hne _

/-- The ends of a line are those of its first and its last word. -/
theorem hasEnds_lineOf (h : List.Forall₂ Word tokens words)
    (ht : ∀ token ∈ tokens, IsToken token) : HasEnds isBlank (lineOf words) := by
  induction h with
  | nil => exact ⟨by rintro c ⟨⟩, by rintro c ⟨⟩⟩
  | @cons token word tokens words hw hrest ih =>
    have hline := ih fun other ho => ht other (.tail _ ho)
    cases hrest with
    | nil =>
      rw [lineOf_singleton]
      exact hw.hasEnds
    | @cons next nextWord tokens words hnext =>
      have hne := hw.ne_nil (ht token List.mem_cons_self).ne_nil
      have hrest := lineOf_ne_nil (hnext.ne_nil (ht next (.tail _ List.mem_cons_self)).ne_nil) words
      have hlast := List.getLast?_eq_some_getLast hrest
      rw [lineOf_cons_cons]
      constructor
      · rw [List.head?_append_of_ne_nil _ hne]
        exact hw.hasEnds.1
      · rw [List.getLast?_append_cons, List.getLast?_cons, hlast, Option.getD_some, ← hlast]
        exact hline.2

/-- There is nothing to trim. -/
theorem strip_line (h : List.Forall₂ Word tokens words) (ht : ∀ token ∈ tokens, IsToken token) :
    strip (lineOf words) = lineOf words :=
  trim_eq_self (hasEnds_lineOf h ht)

end CmdletShell.Proofs.Lines.Words
