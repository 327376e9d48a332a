import CmdletShell.Line.Token
import Mathlib.Data.List.Basic

/-!
# Writing tokens

A token may be written in quotes, or as it is if it has no white space (`Spelled`). A list of tokens
is written with white space between two of them, and around them if one likes (`Written`). Reading
undoes writing: the tokens of a line that tokens are written as are these tokens
(`tokenize_of_written`). The tokens of a line can be written again, since none is empty or has a
quote (`isToken_of_mem_tokenize`).

The induction is along `Written`. What carries it is that the scan stands outside quotes with
nothing in hand wherever a token may begin.
-/

namespace CmdletShell.Proofs.Lines.Quoting

open CmdletShell.Line CmdletShell.Text

/-- A text that can be a token. -/
structure IsToken (text : Text) : Prop where
  ne_nil : text ≠ []
  unquoted : '"' ∉ text

instance : DecidablePred IsToken := fun text =>
  decidable_of_iff (text ≠ [] ∧ '"' ∉ text) ⟨fun h => ⟨h.1, h.2⟩, fun h => ⟨h.1, h.2⟩⟩

/-- **The ways to write a token.** -/
inductive Spelled (token : Text) : Text → Prop
  /-- In quotes. -/
  | quoted : Spelled token ('"' :: (token ++ ['"']))
  /-- As it is, if it has no white space. -/
  | bare : (∀ c ∈ token, isBlank c = false) → Spelled token token

/-- **The lines that tokens are written as.** -/
inductive Written : List Text → Text → Prop
  /-- No token on an empty line. -/
  | nil : Written [] []
  /-- White space before what is written. -/
  | space {c tokens line} : isBlank c = true → Written tokens line → Written tokens (c :: line)
  /-- The last token, at the end of the line. -/
  | last {token spelling} : Spelled token spelling → Written [token] spelling
  /-- A token with white space after it. -/
  | item {token spelling c tokens line} : Spelled token spelling → isBlank c = true →
      Written tokens line → Written (token :: tokens) (spelling ++ c :: line)

variable {token spelling word rest : Text} {c : Char}

theorem Spelled.bare_of_any (h : token.any isBlank = false) : Spelled token token :=
  .bare fun c hc => Bool.eq_false_iff.mpr (List.any_eq_false.mp h c hc)

/-! ### The scan of a spelling -/

theorem ne_quote_of_isBlank (h : isBlank c = true) : c ≠ '"' := by
  rintro rfl
  revert h
  decide

theorem scan_quote (quoted : Bool) (word rest : Text) :
    scan quoted word ('"' :: rest) = scan (!quoted) word rest := by
  rw [scan, if_pos rfl]

/-- White space outside quotes ends the word in hand. -/
theorem scan_space (h : isBlank c = true) (word rest : Text) :
    scan false word (c :: rest) = flush word ++ scan false [] rest := by
  rw [scan, if_neg (ne_quote_of_isBlank h), h]
  rfl

/-- Inside quotes every other character goes to the word in hand. -/
theorem scan_inside : ∀ (text word rest : Text), '"' ∉ text →
    scan true word (text ++ rest) = scan true (word ++ text) rest
  | [], word, rest, _ => by rw [List.nil_append, List.append_nil]
  | c :: text, word, rest, h => by
    obtain ⟨hc, ht⟩ := List.ne_and_not_mem_of_not_mem_cons h
    rw [List.cons_append, scan, if_neg hc.symm, Bool.not_true, Bool.and_false,
      if_neg Bool.false_ne_true, scan_inside text _ rest ht, List.append_assoc,
      List.singleton_append]

/-- Outside quotes every character that is no white space goes to the word in hand. -/
theorem scan_bare : ∀ (text word rest : Text), '"' ∉ text → (∀ c ∈ text, isBlank c = false) →
    scan false word (text ++ rest) = scan false (word ++ text) rest
  | [], word, rest, _, _ => by rw [List.nil_append, List.append_nil]
  | c :: text, word, rest, h, hb => by
    obtain ⟨hc, ht⟩ := List.ne_and_not_mem_of_not_mem_cons h
    rw [List.cons_append, scan, if_neg hc.symm, hb c List.mem_cons_self, Bool.false_and,
      if_neg Bool.false_ne_true,
      scan_bare text _ rest ht fun d hd => hb d (List.mem_cons_of_mem _ hd), List.append_assoc,
      List.singleton_append]

/-- A spelling puts its token into the hand, and leaves the scan outside quotes. -/
theorem scan_spelling (h : Spelled token spelling) (ht : '"' ∉ token) (rest : Text) :
    scan false [] (spelling ++ rest) = scan false token rest := by
  cases h with
  | bare hb => rw [scan_bare token [] rest ht hb, List.nil_append]
  | quoted =>
    rw [List.cons_append, scan_quote, List.append_assoc, Bool.not_false,
      scan_inside token [] _ ht, List.nil_append, List.singleton_append, scan_quote, Bool.not_true]

theorem flush_token (h : IsToken token) : flush token = [token] := by
  rw [flush, List.isEmpty_eq_false_iff.mpr h.ne_nil, if_neg Bool.false_ne_true]

/-! ### Reading what is written -/

/-- **Reading undoes writing.** -/
theorem tokenize_of_written {tokens : List Text} {line : Text} (h : Written tokens line)
    (ht : ∀ token ∈ tokens, IsToken token) : tokenize line = tokens := by
  unfold tokenize
  induction h with
  | nil => rfl
  | space hc _ ih =>
    rw [scan_space hc, ih ht]
    rfl
  | @last token spelling hs =>
    have htoken := ht token List.mem_cons_self
    have hscan := scan_spelling hs htoken.unquoted []
    rw [List.append_nil] at hscan
    rw [hscan, scan, flush_token htoken]
  | @item token spelling c tokens line hs hc _ ih =>
    have htoken := ht token List.mem_cons_self
    rw [scan_spelling hs htoken.unquoted, scan_space hc, flush_token htoken,
      ih fun other ho => ht other (List.mem_cons_of_mem _ ho)]
    rfl

/-- A list of tokens with each in quotes is a way to write them. -/
theorem written_quote : ∀ tokens : List Text, Written tokens (quote tokens)
  | [] => Written.nil
  | [token] => by
    have hq : quote [token] = '"' :: (token ++ ['"']) := by
      rw [quote, joinWith, List.map_cons, List.map_nil, List.intercalate_singleton]
      rfl
    rw [hq]
    exact Written.last Spelled.quoted
  | token :: next :: tokens => by
    have h := written_quote (next :: tokens)
    have hq : quote (token :: next :: tokens) =
        ('"' :: (token ++ ['"'])) ++ ' ' :: quote (next :: tokens) := by
      rw [quote, joinWith, List.map_cons, List.map_cons, List.intercalate_cons_cons,
        List.append_assoc, List.singleton_append]
      rfl
    rw [hq]
    exact Written.item Spelled.quoted rfl h

/-! ### What is read can be written -/

theorem isToken_of_mem_flush (hw : '"' ∉ word) (h : token ∈ flush word) : IsToken token := by
  unfold flush at h
  split_ifs at h with he
  · cases h
  · rw [List.mem_singleton] at h
    subst h
    exact ⟨fun h => he (by rw [h]; rfl), hw⟩

/-- What the scan gives is a list of tokens, if the word in hand has no quote. -/
theorem isToken_of_mem_scan : ∀ (rest word : Text) (quoted : Bool), '"' ∉ word →
    ∀ token ∈ scan quoted word rest, IsToken token
  | [], word, quoted, hw, token, h => by
    rw [scan] at h
    exact isToken_of_mem_flush hw h
  | c :: rest, word, quoted, hw, token, h => by
    rw [scan] at h
    split_ifs at h with hc hb
    · exact isToken_of_mem_scan rest word _ hw token h
    · rcases List.mem_append.mp h with h | h
      · exact isToken_of_mem_flush hw h
      · exact isToken_of_mem_scan rest [] _ List.not_mem_nil token h
    · refine isToken_of_mem_scan rest (word ++ [c]) _ ?_ token h
      rw [List.mem_append, List.mem_singleton]
      rintro (h | rfl)
      · exact hw h
      · exact hc rfl

theorem isToken_of_mem_tokenize {line : Text} (h : token ∈ tokenize line) : IsToken token :=
  isToken_of_mem_scan line [] false List.not_mem_nil token h

/-- **Writing and reading tokens.** However tokens are written, they are read back; and what is read
from any line are tokens, which are read back from their quotation. -/
theorem tokenize_roundtrip :
    (∀ tokens line, (∀ token ∈ tokens, IsToken token) → Written tokens line →
      tokenize line = tokens) ∧
    ∀ line, (∀ token ∈ tokenize line, IsToken token) ∧
      tokenize (quote (tokenize line)) = tokenize line := by
  refine ⟨fun tokens line ht h => tokenize_of_written h ht, fun line => ?_⟩
  have ht : ∀ token ∈ tokenize line, IsToken token := fun token h => isToken_of_mem_tokenize h
  exact ⟨ht, tokenize_of_written (written_quote _) ht⟩

/-- A line that begins and ends with white space, with a token in quotes and a bare one. -/
def mixedLine : Text := " \"a | b\"\tc "

/-- The quotes protect white space and a bar. -/
theorem tokenize_roundtrip_mixed :
    (∀ token ∈ (["a | b", "c"] : List Text), IsToken token) ∧ Written ["a | b", "c"] mixedLine ∧
    tokenize mixedLine = ["a | b", "c"] ∧
    tokenize (quote (tokenize mixedLine)) = tokenize mixedLine := by
  have ht : ∀ token ∈ (["a | b", "c"] : List Text), IsToken token := by decide
  have hc : Written ["c"] (("c" : Text) ++ ' ' :: []) :=
    Written.item (Spelled.bare_of_any (by decide)) (by decide) Written.nil
  have hw : Written ["a | b", "c"] mixedLine :=
    Written.space (by decide) (Written.item Spelled.quoted (by decide : isBlank '\t' = true) hc)
  exact ⟨ht, hw, tokenize_roundtrip.1 _ _ ht hw, (tokenize_roundtrip.2 mixedLine).2⟩

end CmdletShell.Proofs.Lines.Quoting
