import CmdletShell.Display.Markup
import Mathlib.Data.List.Basic

/-!
# What is written between tags

Reading undoes the references that writing a text makes (`resolve_escape`), but for two things. A
text with a character that cannot be written is not read at all, since no reference stands for it;
and the line ends of the others are read as line feeds (`readData_escape`). A character to which
neither happens is plain (`IsPlain`).
-/

namespace CmdletShell.Proofs.Texts.Markup

open CmdletShell.Display.Markup CmdletShell.Text

/-- The character can be written, and is read as it is. -/
def IsPlain (c : Char) : Prop := isWritable c = true ∧ c ≠ '\r'

instance : DecidablePred IsPlain := fun c =>
  inferInstanceAs (Decidable (isWritable c = true ∧ c ≠ '\r'))

variable {c : Char} {text rest : Text}

/-! ### Line ends -/

theorem unifyLineEnds_cons (h : c ≠ '\r') (rest : Text) :
    unifyLineEnds (c :: rest) = c :: unifyLineEnds rest := by
  rw [unifyLineEnds]
  · exact fun _ hc => absurd hc h
  · exact h

/-- A carriage return that no line feed follows becomes one. -/
theorem unifyLineEnds_return (h : rest.head? ≠ some '\n') :
    unifyLineEnds ('\r' :: rest) = '\n' :: unifyLineEnds rest := by
  rw [unifyLineEnds]
  rintro more rfl
  exact h rfl

theorem unifyLineEnds_append (h : '\r' ∉ text) (rest : Text) :
    unifyLineEnds (text ++ rest) = text ++ unifyLineEnds rest := by
  induction text with
  | nil => rfl
  | cons c text ih =>
    obtain ⟨hc, ht⟩ := List.ne_and_not_mem_of_not_mem_cons h
    rw [List.cons_append, unifyLineEnds_cons hc.symm, ih ht, List.cons_append]

/-- No carriage return is left. -/
theorem return_not_mem_unifyLineEnds (text : Text) : '\r' ∉ unifyLineEnds text := by
  fun_induction unifyLineEnds text with
  | case1 => exact List.not_mem_nil
  | case2 rest ih => exact List.not_mem_cons_of_ne_of_not_mem (by decide) ih
  | case3 rest _ ih => exact List.not_mem_cons_of_ne_of_not_mem (by decide) ih
  | case4 c rest _ hc ih => exact List.not_mem_cons_of_ne_of_not_mem (fun h => hc h.symm) ih

/-- A text without carriage returns stays. -/
theorem unifyLineEnds_eq_self (h : '\r' ∉ text) : unifyLineEnds text = text := by
  have happend := unifyLineEnds_append h []
  rwa [List.append_nil, unifyLineEnds, List.append_nil] at happend

/-- All line ends can be written. -/
theorem all_isWritable_unifyLineEnds (text : Text) :
    (unifyLineEnds text).all isWritable = text.all isWritable := by
  have hreturn : isWritable '\r' = true := by decide
  have hfeed : isWritable '\n' = true := by decide
  fun_induction unifyLineEnds text with
  | case1 => rfl
  | case2 rest ih => rw [List.all_cons, List.all_cons, List.all_cons, hreturn, hfeed, ih]; rfl
  | case3 rest _ ih => rw [List.all_cons, List.all_cons, hreturn, hfeed, ih]
  | case4 c rest _ _ ih => rw [List.all_cons, List.all_cons, ih]

/-! ### References -/

theorem escape_cons (c : Char) (text : Text) : escape (c :: text) = escapeChar c ++ escape text :=
  List.flatMap_cons

/-- A reference begins with a sign of its own, so what is written begins like the text. -/
theorem head?_escape_ne (h : text.head? ≠ some '\n') : (escape text).head? ≠ some '\n' := by
  cases text with
  | nil => exact h
  | cons c text =>
    rw [escape_cons, escapeChar]
    split_ifs
    · exact fun hn => absurd (Option.some.inj hn) (by decide)
    · exact fun hn => absurd (Option.some.inj hn) (by decide)
    · exact fun hn => absurd (Option.some.inj hn) (by decide)
    · exact h

/-- References have no line ends, so it does not matter when these are unified. -/
theorem unifyLineEnds_escape (text : Text) :
    unifyLineEnds (escape text) = escape (unifyLineEnds text) := by
  fun_induction unifyLineEnds text with
  | case1 => rfl
  | case2 rest ih =>
    have hwritten : escape ('\r' :: '\n' :: rest) = '\r' :: '\n' :: escape rest := rfl
    rw [hwritten, unifyLineEnds, ih]
    rfl
  | case3 rest hn ih =>
    have hhead : rest.head? ≠ some '\n' := by
      intro h
      obtain ⟨more, rfl⟩ := List.head?_eq_some_iff.mp h
      exact hn more rfl
    have hwritten : escape ('\r' :: rest) = '\r' :: escape rest := rfl
    rw [hwritten, unifyLineEnds_return (head?_escape_ne hhead), ih]
    rfl
  | case4 c rest _ hc ih =>
    have hchar : '\r' ∉ escapeChar c := by
      unfold escapeChar
      split_ifs
      · decide
      · decide
      · decide
      · exact fun h => hc (List.mem_singleton.mp h).symm
    rw [escape_cons, unifyLineEnds_append hchar, ih, escape_cons]

/-- A character that begins no reference and no tag is read as it is, if it can be written. -/
theorem resolve_cons (hamp : c ≠ '&') (hless : c ≠ '<') (rest : Text) :
    resolve (c :: rest) =
      if isWritable c = true then (resolve rest).map (c :: ·) else .error .unmarkable := by
  rw [resolve]
  · cases hw : isWritable c <;> simp [hamp, hless]
  all_goals exact fun _ hc => absurd hc hamp

/-- What stands for a character is read as the character. -/
theorem resolve_escapeChar (c : Char) (rest : Text) :
    resolve (escapeChar c ++ rest) =
      if isWritable c = true then (resolve rest).map (c :: ·) else .error .unmarkable := by
  by_cases hamp : c = '&'
  · subst hamp
    rfl
  by_cases hless : c = '<'
  · subst hless
    rfl
  by_cases hgreater : c = '>'
  · subst hgreater
    rfl
  · rw [escapeChar, if_neg hamp, if_neg hless, if_neg hgreater, List.singleton_append,
      resolve_cons hamp hless]

/-- **Resolving undoes the references**, unless a character cannot be written. -/
theorem resolve_escape (text : Text) :
    resolve (escape text) =
      if text.all isWritable = true then .ok text else .error .unmarkable := by
  induction text with
  | nil => rfl
  | cons c text ih =>
    rw [escape_cons, resolve_escapeChar, ih, List.all_cons]
    cases isWritable c <;> cases text.all isWritable <;> rfl

/-! ### Reading -/

/-- **A written text is read back with its line ends unified**, unless a character cannot be
written. -/
theorem readData_escape (text : Text) :
    readData (escape text) =
      if text.all isWritable = true then .ok (unifyLineEnds text) else .error .unmarkable := by
  rw [readData, unifyLineEnds_escape, resolve_escape, all_isWritable_unifyLineEnds]

theorem forall_isPlain_iff :
    (∀ c ∈ text, IsPlain c) ↔ text.all isWritable = true ∧ '\r' ∉ text := by
  rw [List.all_eq_true]
  constructor
  · intro h
    exact ⟨fun c hc => (h c hc).1, fun hmem => (h '\r' hmem).2 rfl⟩
  · rintro ⟨hw, hn⟩ c hc
    exact ⟨hw c hc, ne_of_mem_of_not_mem hc hn⟩

end CmdletShell.Proofs.Texts.Markup
