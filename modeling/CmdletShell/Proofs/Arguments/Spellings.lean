import CmdletShell.Proofs.Arguments.Arrangements
import CmdletShell.Proofs.Arguments.NameValues

/-!
# Spellings of a flag with its value

A value is given to a flag in the next token, or in the same one behind a colon or a space
(`Form`). The parts of an assignment are read whole from each of them (`readNameValue_form`). The
reader of the other commands agrees but for one: behind a space it reads the first word only
(`flagValue_space`). So it reads the value from all spellings exactly if the value has no space in
it (`flag_forms`).
-/

namespace CmdletShell.Proofs.Arguments.Spellings

open CmdletShell.Argument CmdletShell.Text
open CmdletShell.Proofs.Lines.Strip CmdletShell.Proofs.Arguments.Flags
open CmdletShell.Proofs.Arguments.Arrangements CmdletShell.Proofs.Arguments.NameValues

/-- A text that is not empty and has no white space at its ends. -/
structure IsTrimmed (value : Text) : Prop where
  ne_nil : value ≠ []
  ends : HasEnds isBlank value

instance : DecidablePred IsTrimmed := fun value =>
  decidable_of_iff (value ≠ [] ∧ HasEnds isBlank value)
    ⟨fun h => ⟨h.1, h.2⟩, fun h => ⟨h.ne_nil, h.ends⟩⟩

/-- **Where the value of a flag stands.** -/
inductive Form where
  /-- In the next token. -/
  | apart
  /-- Behind a colon. -/
  | colon
  /-- Behind a space. -/
  | space
  deriving DecidableEq, Repr

/-- The tokens of a flag and its value. -/
def Form.tokens (spelling value : Text) : Form → List Text
  | .apart => [spelling, value]
  | .colon => [spelling ++ ':' :: value]
  | .space => [spelling ++ ' ' :: value]

/-- What is read of an assignment if one part of it is given. -/
def only (value : Text) : Slot → Option Text × Option Text
  | .name => (some value, none)
  | .value => (none, some value)

variable {flag spelling value : Text} {slot : Slot}

/-! ### The parts of an assignment -/

/-- **The parts of an assignment are read whole.** -/
theorem readNameValue_form (hs : Spells (dashed slot) spelling) (hv : IsTrimmed value)
    (form : Form) : readNameValue (form.tokens spelling value) = .ok (only value slot) := by
  have hscan : scanNameValue {} (form.tokens spelling value) =
      .ok (NameValue.set slot value {}) := by
    cases form with
    | apart => exact scan_apart hs value {} []
    | colon => exact scan_inside hs rfl {} []
    | space => exact scan_inside hs (attached?_space hv.ends.1) {} []
  rw [readNameValue, hscan]
  cases slot <;> rfl

/-! ### The values of other flags -/

theorem firstWord_trimmed (hv : IsTrimmed value) :
    firstWord value = value.takeWhile (· ≠ ' ') := by
  rw [firstWord, strip, trim_eq_self hv.ends]

theorem firstWord_ne_nil (hv : IsTrimmed value) : firstWord value ≠ [] := by
  rw [firstWord_trimmed hv]
  obtain ⟨c, rest, rfl⟩ := List.exists_cons_of_ne_nil hv.ne_nil
  have hc : c ≠ ' ' := by
    rintro rfl
    cases hv.ends.1 ' ' rfl
  simp [hc]

/-- **Behind a space the first word is read.** -/
theorem flagValue_space (hf : IsFlagName flag) (hs : Spells flag spelling)
    (hv : IsTrimmed value) :
    flagValue flag (Form.space.tokens spelling value) = some (value.takeWhile (· ≠ ' ')) := by
  rw [Form.tokens, flagValue, mention_self hs hf, ← firstWord_trimmed hv]
  exact nonEmpty_of_ne_nil (firstWord_ne_nil hv)

theorem flagValue_apart (hf : IsFlagName flag) (hs : Spells flag spelling) (value : Text) :
    flagValue flag (Form.apart.tokens spelling value) = some value := by
  have hm := mention_self hs hf []
  rw [List.append_nil] at hm
  rw [Form.tokens, flagValue, hm]
  rfl

theorem flagValue_colon (hf : IsFlagName flag) (hs : Spells flag spelling)
    (hv : IsTrimmed value) : flagValue flag (Form.colon.tokens spelling value) = some value := by
  rw [Form.tokens, flagValue, mention_self hs hf]
  exact nonEmpty_of_ne_nil hv.ne_nil

theorem takeWhile_eq_self_iff_not_mem : value.takeWhile (· ≠ ' ') = value ↔ ' ' ∉ value := by
  rw [List.takeWhile_eq_self_iff]
  constructor
  · intro h hmem
    simpa using h ' ' hmem
  · intro h c hc
    refine decide_eq_true ?_
    rintro rfl
    exact h hc

/-- **What the spellings of a flag deliver.** In the next token and behind a colon the value is read
whole, behind a space up to its first space, so that all spellings deliver it exactly if it has no
space. An assignment delivers it in each of them. -/
theorem flag_forms (hf : IsFlagName flag) (hv : IsTrimmed value) :
    (∀ spelling, Spells flag spelling →
      flagValue flag (Form.apart.tokens spelling value) = some value ∧
      flagValue flag (Form.colon.tokens spelling value) = some value ∧
      flagValue flag (Form.space.tokens spelling value) = some (value.takeWhile (· ≠ ' ')) ∧
      ((∀ form : Form, flagValue flag (form.tokens spelling value) = some value) ↔
        ' ' ∉ value)) ∧
    ∀ slot spelling, Spells (dashed slot) spelling → ∀ form : Form,
      readNameValue (form.tokens spelling value) = .ok (only value slot) := by
  refine ⟨fun spelling hs => ?_, fun slot spelling hs => readNameValue_form hs hv⟩
  have hspace := flagValue_space hf hs hv
  refine ⟨flagValue_apart hf hs value, flagValue_colon hf hs hv, hspace, ?_⟩
  constructor
  · intro hall
    exact takeWhile_eq_self_iff_not_mem.mp (Option.some.inj (hspace.symm.trans (hall .space)))
  · intro hno form
    cases form with
    | apart => exact flagValue_apart hf hs value
    | colon => exact flagValue_colon hf hs hv
    | space => rw [hspace, takeWhile_eq_self_iff_not_mem.mpr hno]

/-- A path with a space in it, and a flag in another letter case. -/
theorem flag_forms_path :
    IsFlagName "-Path" ∧ IsTrimmed "My File.txt" ∧ Spells "-Path" "-PATH" ∧
    flagValue "-Path" ["-PATH", "My File.txt"] = some ("My File.txt" : Text) ∧
    flagValue "-Path" ["-PATH:My File.txt"] = some ("My File.txt" : Text) ∧
    flagValue "-Path" ["-PATH My File.txt"] = some ("My" : Text) := by
  have hf : IsFlagName "-Path" := by decide
  have hv : IsTrimmed "My File.txt" := by decide
  have hs : Spells "-Path" "-PATH" := by
    unfold Spells
    decide
  obtain ⟨hall, -⟩ := flag_forms hf hv
  obtain ⟨hapart, hcolon, hspace, -⟩ := hall _ hs
  exact ⟨hf, hv, hs, hapart, hcolon, hspace⟩

/-- **A value is cut** behind a flag and a space, where an assignment reads it whole. -/
theorem spaced_value_cut :
    IsFlagName "-Path" ∧ IsTrimmed "My File.txt" ∧
    flagValue "-Path" ["-Path My File.txt"] ≠ some ("My File.txt" : Text) ∧
    readNameValue ["-Value My File.txt"] = .ok (none, some ("My File.txt" : Text)) := by
  refine ⟨by decide, by decide, by decide, rfl⟩

end CmdletShell.Proofs.Arguments.Spellings
