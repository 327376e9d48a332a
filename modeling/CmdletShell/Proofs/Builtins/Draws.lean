import CmdletShell.Main
import CmdletShell.Proofs.Builtins.Handlers
import CmdletShell.Proofs.Numbers.Integers

/-!
# Random numbers

`Get-Random` draws a whole number between two bounds, each of which a flag may give (`Bound`). It
succeeds exactly if what the flags give denotes whole numbers in the right order, and then it puts
out the numeral of a number between them. There are three other ends, one for each bound that is no
whole number and one for bounds in the wrong order (`Draw`, `draws`).
-/

namespace CmdletShell.Proofs.Builtins.Draws

open CmdletShell.Argument CmdletShell.Cmdlet CmdletShell.Text
open CmdletShell.Proofs.Builtins.Handlers CmdletShell.Proofs.Numbers.Integers

/-- A source of numbers keeps to the bounds it is given. -/
def Fair (random : Int → Int → Int) : Prop :=
  ∀ least greatest, least ≤ greatest →
    least ≤ random least greatest ∧ random least greatest ≤ greatest

/-- **What a flag says of a bound**: the number it gives, or another one if it gives nothing. -/
inductive Bound (args : List Text) (flag : Text) (fallback : Int) : Int → Prop
  /-- The flag gives nothing. -/
  | absent : flagValue flag args = none → Bound args flag fallback fallback
  /-- The flag gives a whole number. -/
  | given {raw k} : flagValue flag args = some raw → Denotes raw k → Bound args flag fallback k

/-- The flag gives a text that is no whole number. -/
def Unreadable (args : List Text) (flag raw : Text) : Prop :=
  flagValue flag args = some raw ∧ ∀ k, ¬ Denotes raw k

/-- **How a draw ends.** -/
inductive Draw (args : List Text) : Except Failure Reply → Prop
  /-- A number between the bounds is put out. -/
  | number {least greatest k text} : Bound args "-Minimum" 0 least →
      Bound args "-Maximum" 100 greatest → least ≤ k → k ≤ greatest → IsNumeral k text →
      Draw args (.ok (Reply.text text))
  /-- The least number is no whole number. -/
  | noLeast {raw} : Unreadable args "-Minimum" raw → Draw args (.error (.notInteger raw))
  /-- The greatest number is no whole number, but the least one is. -/
  | noGreatest {least raw} : Bound args "-Minimum" 0 least → Unreadable args "-Maximum" raw →
      Draw args (.error (.notInteger raw))
  /-- The bounds are in the wrong order. -/
  | reversed {least greatest} : Bound args "-Minimum" 0 least →
      Bound args "-Maximum" 100 greatest → greatest < least →
      Draw args (.error (.boundsReversed least greatest))

/-- The source of the executable keeps to its bounds, whatever the seed. -/
theorem fair_between (seed : Nat) : Fair (Executable.between seed) := by
  intro least greatest hle
  have hpos : 0 < greatest - least + 1 := by omega
  have hnonneg := Int.emod_nonneg seed hpos.ne'
  have hlt := Int.emod_lt_of_pos seed hpos
  unfold Executable.between
  omega

variable {args : List Text} {flag : Text} {fallback k : Int} {failure : Failure}

/-! ### Bounds -/

/-- **The number of a flag** is the bound that it gives. -/
theorem intFlag_eq_ok : intFlag args flag fallback = .ok k ↔ Bound args flag fallback k := by
  constructor
  · intro h
    unfold intFlag at h
    split at h
    · next hnone =>
      cases h
      exact .absent hnone
    · next raw hraw =>
      split at h
      · next n hread =>
        cases h
        exact .given hraw (readInteger?_eq_some.mp hread)
      · cases h
  · intro h
    unfold intFlag
    cases h with
    | absent hnone => rw [hnone]
    | given hraw hk =>
      rw [hraw]
      dsimp only
      rw [readInteger?_eq_some.mpr hk]

theorem unreadable_of_intFlag (h : intFlag args flag fallback = .error failure) :
    ∃ raw, failure = .notInteger raw ∧ Unreadable args flag raw := by
  unfold intFlag at h
  split at h
  · cases h
  · next raw hraw =>
    split at h
    · cases h
    · next hread =>
      cases h
      exact ⟨raw, rfl, hraw, readInteger?_eq_none.mp hread⟩

/-- A flag that gives a bound gives no unreadable text. -/
theorem Bound.not_unreadable (h : Bound args flag fallback k) (raw : Text) :
    ¬ Unreadable args flag raw := by
  rintro ⟨hraw, hno⟩
  cases h with
  | absent hnone => cases hnone.symm.trans hraw
  | given hraw' hk =>
    cases hraw.symm.trans hraw'
    exact hno _ hk

theorem Bound.unique {other : Int} (h : Bound args flag fallback k)
    (h' : Bound args flag fallback other) : k = other :=
  Except.ok.inj ((intFlag_eq_ok.mpr h).symm.trans (intFlag_eq_ok.mpr h'))

/-! ### Draws -/

/-- The reply to a request for a random number. -/
def reply (random : Int → Int → Int) (args : List Text) : Except Failure Reply :=
  (randomBetween random args).map fun k => Reply.text (writeInteger k)

theorem getRandom_run (context : Context) (args : List Text) (state : State) :
    (getRandom.handler context args).run state =
      ⟨(reply context.random args).map Answer.reply, state, []⟩ := by
  unfold getRandom reply
  dsimp only
  rw [reading_run]
  cases randomBetween context.random args <;> rfl

/-- **Every draw ends** in one of the four ways. -/
theorem draw_reply {random : Int → Int → Int} (hfair : Fair random) (args : List Text) :
    Draw args (reply random args) := by
  unfold reply randomBetween
  cases hleast : intFlag args "-Minimum" 0 with
  | error failure =>
    obtain ⟨raw, rfl, hraw⟩ := unreadable_of_intFlag hleast
    exact .noLeast hraw
  | ok least =>
    have hl := intFlag_eq_ok.mp hleast
    cases hgreatest : intFlag args "-Maximum" 100 with
    | error failure =>
      obtain ⟨raw, rfl, hraw⟩ := unreadable_of_intFlag hgreatest
      exact .noGreatest hl hraw
    | ok greatest =>
      have hg := intFlag_eq_ok.mp hgreatest
      simp only [bind, Except.bind]
      split_ifs with hlt
      · exact .reversed hl hg hlt
      · obtain ⟨hle, hge⟩ := hfair least greatest (Int.not_lt.mp hlt)
        exact .number hl hg hle hge (isNumeral_writeInteger _)

/-- A draw that ends with a number is one with bounds in the right order. -/
theorem Draw.isOk_iff {result : Except Failure Reply} (h : Draw args result) :
    result.isOk = true ↔ ∃ least greatest,
      Bound args "-Minimum" 0 least ∧ Bound args "-Maximum" 100 greatest ∧ least ≤ greatest := by
  constructor
  · intro hok
    cases h with
    | number hl hg hle hge => exact ⟨_, _, hl, hg, hle.trans hge⟩
    | noLeast | noGreatest | reversed => cases hok
  · rintro ⟨least, greatest, hl, hg, hle⟩
    cases h with
    | number => rfl
    | noLeast hraw => exact absurd hraw (hl.not_unreadable _)
    | noGreatest _ hraw => exact absurd hraw (hg.not_unreadable _)
    | reversed hl' hg' hlt =>
      rw [hl'.unique hl, hg'.unique hg] at hlt
      exact absurd hlt (Int.not_lt.mpr hle)

/-- **`Get-Random` stays within its bounds.** It succeeds exactly if both are whole numbers in the
right order, puts out the numeral of a number between them, and changes nothing. -/
theorem draws {context : Context} (hfair : Fair context.random) (args : List Text)
    (state : State) : ∃ result,
      (getRandom.handler context args).run state = ⟨result.map Answer.reply, state, []⟩ ∧
      Draw args result ∧ (result.isOk = true ↔ ∃ least greatest,
        Bound args "-Minimum" 0 least ∧ Bound args "-Maximum" 100 greatest ∧
        least ≤ greatest) := by
  have hdraw := draw_reply hfair args
  exact ⟨_, getRandom_run context args state, hdraw, hdraw.isOk_iff⟩

/-- Bounds in digits of other scripts, with a low line, signs and white space. -/
def foreignArgs : List Text := ["-maximum:\u2003+1_٠ ", "-MINIMUM", "-७"]

/-- Between seven below zero and ten. -/
theorem draws_foreign :
    let context : Context := { clock := default, random := Executable.between 12 }
    Fair context.random ∧ Bound foreignArgs "-Minimum" 0 (-7) ∧
    Bound foreignArgs "-Maximum" 100 10 ∧ ∃ result,
      (getRandom.handler context foreignArgs).run default =
        ⟨result.map Answer.reply, default, []⟩ ∧
      Draw foreignArgs result ∧ result.isOk = true := by
  intro context
  have hfair : Fair context.random := fair_between 12
  have hl : Bound foreignArgs "-Minimum" 0 (-7) :=
    .given (by decide : _ = some ("-७" : Text)) (readInteger?_eq_some.mp (by decide))
  have hg : Bound foreignArgs "-Maximum" 100 10 :=
    .given (by decide : _ = some ("\u2003+1_٠ " : Text)) (readInteger?_eq_some.mp (by decide))
  obtain ⟨result, hrun, hdraw, hok⟩ := draws hfair foreignArgs default
  exact ⟨hfair, hl, hg, result, hrun, hdraw, hok.mpr ⟨-7, 10, hl, hg, by decide⟩⟩

end CmdletShell.Proofs.Builtins.Draws
