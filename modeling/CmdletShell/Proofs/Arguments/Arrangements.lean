import CmdletShell.Argument.Positional
import CmdletShell.Json.Value
import CmdletShell.Proofs.Arguments.Flags
import CmdletShell.Proofs.Lines.Strip
import Mathlib.Data.List.Nodup

/-!
# Arguments in any order

Positional texts, switches and flags with their values may be arranged in any order, as long as the
texts keep theirs and a value stays with its flag (`Arranged`, `Gives`). Reading the arguments gives
back the texts, and for each flag the value given to it (`read_arranged`).

The induction is along `Arranged`. What carries it is that no token that begins a part mentions a
flag but the one it spells, so that the two scanners pass it alike.
-/

namespace CmdletShell.Proofs.Arguments.Arrangements

open CmdletShell.Argument CmdletShell.Text
open CmdletShell.Proofs.Lines.Strip CmdletShell.Proofs.Arguments.Flags

/-- A text that is no flag: a dash alone, or a text without a dash at its start. -/
def IsLoose (text : Text) : Prop := text = "-" ∨ text.head? ≠ some '-'

/-- A dash with something after it that begins with none of the flags, in any letter case. -/
structure IsSwitch (flags : List Text) (token : Text) : Prop where
  isFlag : isFlag token = true
  not_isPrefix : ∀ flag ∈ flags, ¬ lower flag <+: lower token

/-- **The ways to give a flag a value.** -/
inductive Gives (flag value : Text) : List Text → Prop
  /-- The value is the next token. -/
  | apart {spelling} : Spells flag spelling → value.head? ≠ some '-' →
      Gives flag value [spelling, value]
  /-- The value stands behind a colon. -/
  | colon {spelling} : Spells flag spelling → Gives flag value [spelling ++ ':' :: value]
  /-- The value stands behind a space. -/
  | space {spelling} : Spells flag spelling → (∀ c ∈ value, isBlank c = false) →
      Gives flag value [spelling ++ ' ' :: value]

/-- **The arguments in which loose texts and values of flags are arranged.** Of a flag that is given
twice the first value counts. -/
inductive Arranged (flags : List Text) : List Text → Fields Text → List Text → Prop
  /-- No arguments. -/
  | nil : Arranged flags [] [] []
  /-- A loose text. -/
  | loose {text texts given args} : IsLoose text → Arranged flags texts given args →
      Arranged flags (text :: texts) given (text :: args)
  /-- A switch, which stands for itself. -/
  | switch {token texts given args} : IsSwitch flags token → Arranged flags texts given args →
      Arranged flags texts given (token :: args)
  /-- A flag with its value. -/
  | group {flag value tokens texts given args} : flag ∈ flags → value ≠ [] →
      Gives flag value tokens → Arranged flags texts given args →
      Arranged flags texts ((flag, value) :: given) (tokens ++ args)

variable {flags texts tokens args : List Text} {given : Fields Text}
  {flag other value text token spelling : Text}

/-! ### Loose texts and switches -/

theorem IsLoose.isFlag_eq (h : IsLoose text) : isFlag text = false := by
  rcases h with rfl | h
  · rfl
  · unfold isFlag
    split
    · exact absurd rfl h
    · rfl

theorem mention_of_isPrefix (h : ¬ lower flag <+: lower token) : mention flag token = .other := by
  rw [mention, if_neg (by rwa [List.isPrefixOf_iff_prefix])]

theorem IsLoose.mention_eq (h : IsLoose text) (hf : IsFlagName flag) :
    mention flag text = .other := by
  rcases h with rfl | h
  · -- a flag has a letter behind its dash
    refine mention_of_isPrefix fun hp => ?_
    obtain ⟨letters, hl, hne, -⟩ := hf.lower.1.eq_cons
    have hdash : lower ("-" : Text) = ['-'] := by decide
    rw [hl, hdash, List.cons_prefix_cons, List.prefix_nil] at hp
    exact hne hp.2
  · exact mention_of_head?_ne hf h

theorem isOneOf_iff : isOneOf flags token = true ↔ ∃ flag ∈ flags, Spells flag token := by
  rw [isOneOf, List.contains_iff_mem, List.mem_map]
  exact exists_congr fun flag => and_congr_right fun _ => eq_comm

theorem IsSwitch.isOneOf_eq (h : IsSwitch flags token) : isOneOf flags token = false := by
  rw [Bool.eq_false_iff, ne_eq, isOneOf_iff]
  rintro ⟨flag, hmem, hs⟩
  exact h.not_isPrefix flag hmem ⟨[], (List.append_nil _).trans hs.symm⟩

/-! ### Flags with their values -/

theorem isFlag_of_spells (h : Spells flag spelling) (hf : IsFlagName flag) (rest : Text) :
    isFlag (spelling ++ rest) = true := by
  obtain ⟨c, tail, rfl⟩ := h.eq_cons hf
  rfl

theorem closes_colon (value : Text) : Closes (':' :: value) := by
  rintro c ⟨⟩
  exact Or.inl rfl

theorem closes_space (value : Text) : Closes (' ' :: value) := by
  rintro c ⟨⟩
  exact Or.inr rfl

/-- A token with something behind its flag is not a flag alone. -/
theorem isOneOf_append (hf : ∀ flag ∈ flags, IsFlagName flag) (h : Spells flag spelling)
    (hflag : IsFlagName flag) {c : Char} {rest : Text} (hc : Closes (c :: rest)) :
    isOneOf flags (spelling ++ c :: rest) = false := by
  rw [Bool.eq_false_iff, ne_eq, isOneOf_iff]
  rintro ⟨other, hmem, hs⟩
  -- the token would both be the other flag and have something behind it
  have hbefore : mention other (spelling ++ c :: rest) = .before := by
    have hm := mention_self hs (hf other hmem) []
    rwa [List.append_nil] at hm
  by_cases he : lower other = lower flag
  · have hother : Spells other spelling := h.trans he.symm
    have hm := mention_self hother (hf other hmem) (c :: rest)
    rw [hbefore] at hm
    rcases hc c rfl with rfl | rfl <;> cases hm
  · rw [mention_other h hflag (hf other hmem) he hc] at hbefore
    cases hbefore

theorem firstWord_eq (h : ∀ c ∈ value, isBlank c = false) : firstWord value = value := by
  have hends : HasEnds isBlank value :=
    ⟨fun c hc => h c (List.mem_of_mem_head? hc), fun c hc => h c (List.mem_of_getLast? hc)⟩
  rw [firstWord, strip, trim_eq_self hends, List.takeWhile_eq_self_iff]
  intro c hc
  have hb := h c hc
  refine decide_eq_true ?_
  rintro rfl
  cases hb

/-- **The flag has the value.** -/
theorem flagValue_of_gives (h : Gives flag value tokens) (hf : IsFlagName flag) (hv : value ≠ [])
    (rest : List Text) : flagValue flag (tokens ++ rest) = some value := by
  cases h with
  | @apart spelling hs =>
    have hm := mention_self hs hf []
    rw [List.append_nil] at hm
    rw [List.cons_append, flagValue, hm]
    rfl
  | colon hs =>
    rw [List.cons_append, flagValue, mention_self hs hf]
    exact nonEmpty_of_ne_nil hv
  | space hs hb =>
    rw [List.cons_append, flagValue, mention_self hs hf]
    have hw := firstWord_eq hb
    exact (congrArg nonEmpty hw).trans (nonEmpty_of_ne_nil hv)

/-- No other flag has a value of it. -/
theorem flagValue_of_gives_other (h : Gives flag value tokens) (hf : IsFlagName flag)
    (ho : IsFlagName other) (hne : lower other ≠ lower flag) (rest : List Text) :
    flagValue other (tokens ++ rest) = flagValue other rest := by
  cases h with
  | apart hs hv =>
    have hend : Closes [] := by rintro c ⟨⟩
    have hm := mention_other hs hf ho hne hend
    rw [List.append_nil] at hm
    rw [List.cons_append, flagValue_cons_of_other hm, List.cons_append,
      flagValue_cons_of_other (mention_of_head?_ne ho hv), List.nil_append]
  | colon hs =>
    exact flagValue_cons_of_other (mention_other hs hf ho hne (closes_colon value)) rest
  | space hs hb =>
    exact flagValue_cons_of_other (mention_other hs hf ho hne (closes_space value)) rest

/-- No positional text is of it. -/
theorem positionals_of_gives (hf : ∀ flag ∈ flags, IsFlagName flag) (hmem : flag ∈ flags)
    (h : Gives flag value tokens) (rest : List Text) :
    positionals flags (tokens ++ rest) = positionals flags rest := by
  have hflag := hf flag hmem
  cases h with
  | apart hs _ =>
    have hdash := isFlag_of_spells hs hflag []
    rw [List.append_nil] at hdash
    exact positionals_cons_cons_of_isOneOf hdash (isOneOf_iff.mpr ⟨flag, hmem, hs⟩) value rest
  | colon hs =>
    exact positionals_cons_of_isFlag (isFlag_of_spells hs hflag _)
      (isOneOf_append hf hs hflag (closes_colon value)) rest
  | space hs _ =>
    exact positionals_cons_of_isFlag (isFlag_of_spells hs hflag _)
      (isOneOf_append hf hs hflag (closes_space value)) rest

/-! ### All arguments -/

/-- **Reading gives back what was arranged**: the loose texts in order, and for each flag the value
given to it, if there is one. -/
theorem read_arranged (hf : ∀ flag ∈ flags, IsFlagName flag) (hd : (flags.map lower).Nodup)
    (h : Arranged flags texts given args) :
    positionals flags args = texts ∧ ∀ flag ∈ flags, flagValue flag args = given.get? flag := by
  induction h with
  | nil => exact ⟨rfl, fun _ _ => rfl⟩
  | @loose text texts given args htext _ ih =>
    refine ⟨?_, fun flag hmem => ?_⟩
    · rw [positionals_cons_of_not_isFlag htext.isFlag_eq, ih.1]
    · rw [flagValue_cons_of_other (htext.mention_eq (hf flag hmem)), ih.2 flag hmem]
  | @switch token texts given args htoken _ ih =>
    refine ⟨?_, fun flag hmem => ?_⟩
    · rw [positionals_cons_of_isFlag htoken.isFlag htoken.isOneOf_eq, ih.1]
    · rw [flagValue_cons_of_other (mention_of_isPrefix (htoken.not_isPrefix flag hmem)),
        ih.2 flag hmem]
  | @group flag value tokens texts given args hmem hv hgives _ ih =>
    refine ⟨?_, fun other hother => ?_⟩
    · rw [positionals_of_gives hf hmem hgives, ih.1]
    · rw [Fields.get?]
      by_cases he : flag = other
      · subst he
        rw [if_pos rfl, flagValue_of_gives hgives (hf flag hmem) hv]
      · have hne : lower other ≠ lower flag := fun hl =>
          he (List.inj_on_of_nodup_map hd hmem hother hl.symm)
        rw [if_neg he, flagValue_of_gives_other hgives (hf flag hmem) (hf other hother) hne,
          ih.2 other hother]

/-- Two flags of which one begins like the other. -/
def pathFlags : List Text := ["-Path", "-PathType"]

/-- Arguments with a switch, a dash alone and the flags in other letter cases. -/
def mixedArgs : List Text := ["a", "-PATHtype:-x y", "-Force", "-", "-path", "b", "c"]

theorem read_arranged_mixed :
    (∀ flag ∈ pathFlags, IsFlagName flag) ∧ (pathFlags.map lower).Nodup ∧
    Arranged pathFlags ["a", "-", "c"] [("-PathType", "-x y"), ("-Path", "b")] mixedArgs ∧
    positionals pathFlags mixedArgs = ["a", "-", "c"] ∧
    flagValue "-Path" mixedArgs = some ("b" : Text) ∧
    flagValue "-PathType" mixedArgs = some ("-x y" : Text) := by
  have hf : ∀ flag ∈ pathFlags, IsFlagName flag := by decide
  have hd : (pathFlags.map lower).Nodup := by decide
  have hlast : Arranged pathFlags ["c"] [] ["c"] := .loose (Or.inr (by decide)) .nil
  have hpath : Arranged pathFlags ["c"] [("-Path", "b")] ["-path", "b", "c"] :=
    .group (by decide) (by decide)
      (.apart (by decide : lower "-path" = lower "-Path") (by decide)) hlast
  have hswitch : IsSwitch pathFlags "-Force" := ⟨rfl, by decide⟩
  have hrest : Arranged pathFlags ["-", "c"] [("-Path", "b")] ["-Force", "-", "-path", "b", "c"] :=
    .switch hswitch (.loose (Or.inl rfl) hpath)
  have hspell : Spells "-PathType" "-PATHtype" := by
    unfold Spells
    decide
  have harranged : Arranged pathFlags ["a", "-", "c"] [("-PathType", "-x y"), ("-Path", "b")]
      mixedArgs :=
    .loose (Or.inr (by decide)) (.group (by decide) (by decide) (.colon hspell) hrest)
  obtain ⟨htexts, hvalues⟩ := read_arranged hf hd harranged
  exact ⟨hf, hd, harranged, htexts, hvalues _ (by decide), hvalues _ (by decide)⟩

end CmdletShell.Proofs.Arguments.Arrangements
