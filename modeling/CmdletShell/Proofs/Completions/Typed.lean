import CmdletShell.Completion.Basic
import CmdletShell.Proofs.Lines.LastPipe
import CmdletShell.Proofs.Runs.Execution

/-!
# What a completion replaces

The word that is being typed is the one at the end of the text, after the last white space; it is
empty if the text ends with white space. A completion replaces that word and leaves the text before
it alone (`Spares`).

There is one exception: white space other than a space at the end of a stage does not count as an
end (`OddEnd`). Then the last word before that white space is taken for the one that is being typed,
and as many characters go as it has, although the text does not end with it (`Cuts`).
`completion_replaces` says so of every completion.
-/

namespace CmdletShell.Proofs.Completions.Typed

open CmdletShell.Completion CmdletShell.Line CmdletShell.Text
open CmdletShell.Proofs.Lines.Strip CmdletShell.Proofs.Lines.Trimmed
open CmdletShell.Proofs.Lines.Unquoted CmdletShell.Proofs.Lines.LastPipe
open CmdletShell.Proofs.Runs.Execution (simulated)

variable {interpreter : Interpreter} {text word front tail : Text} {completion : Completion}
variable {completions : List Completion}

/-! ### Reading what is typed -/

/-- The command is the first word of the stage. -/
theorem read_command (text : Text) :
    (Typing.read text).command = (words (openStage text)).headD [] := by
  unfold Typing.read openStage
  dsimp only
  split
  · next h => rw [h]; rfl
  · next h =>
    rw [h]
    split_ifs <;> rfl

/-- The word is the last one of the stage, unless a space ends it. -/
theorem read_word (text : Text) : (Typing.read text).word =
    if endsWith [' '] (openStage text) then [] else (words (openStage text)).getLastD [] := by
  unfold Typing.read openStage
  dsimp only
  split
  · next h => rw [h]; simp
  · next command rest h =>
    rw [h]
    cases endsWith [' '] (stripLeft (afterLastPipe text)) with
    | true => simp
    | false => cases rest <;> rfl

/-! ### The word -/

/-- White space other than a space ends the stage that is being typed. -/
def OddEnd (text : Text) : Prop :=
  ∃ c, (openStage text).getLast? = some c ∧ isBlank c = true ∧ c ≠ ' '

theorem lastRun_openStage (text : Text) : lastRun (openStage text) = lastRun text := by
  obtain ⟨front, htext, hfront⟩ := exists_openStage text
  conv_rhs => rw [htext, lastRun_append hfront]

theorem endsWith_space_iff : endsWith [' '] text = true ↔ text.getLast? = some ' ' := by
  rw [endsWith, List.isSuffixOf_iff_suffix, List.getLast?_eq_some_iff]
  constructor
  · rintro ⟨front, rfl⟩
    exact ⟨front, rfl⟩
  · rintro ⟨front, rfl⟩
    exact ⟨front, rfl⟩

/-- **The word is the one at the end of the text**, if only spaces count as white space there. -/
theorem word_of_not_oddEnd (h : ¬ OddEnd text) : (Typing.read text).word = lastRun text := by
  rw [read_word, ← lastRun_openStage]
  by_cases hrun : lastRun (openStage text) = []
  · have hended := lastRun_eq_nil_iff.mp hrun
    rw [hrun]
    split_ifs with hspace
    · rfl
    · cases hlast : (openStage text).getLast? with
      | none => rw [List.getLast?_eq_none_iff.mp hlast]; rfl
      | some c =>
        refine absurd ⟨c, hlast, hended c hlast, ?_⟩ h
        rintro rfl
        exact hspace (endsWith_space_iff.mpr hlast)
  · obtain ⟨before, hwords⟩ := words_eq_append_lastRun hrun
    have hspace : ¬ endsWith [' '] (openStage text) = true := by
      intro hspace
      refine hrun (lastRun_eq_nil_iff.mpr fun c hc => ?_)
      rw [endsWith_space_iff.mp hspace] at hc
      cases hc
      rfl
    rw [if_neg hspace, hwords, List.getLastD_concat]

/-- A word that white space ends, and what stands around it. -/
structure EndedWord (text front word tail : Text) : Prop where
  whole : text = front ++ word ++ tail
  /-- The word begins after white space, or at the start. -/
  begun : Ended front
  word_ne_nil : word ≠ []
  solid : ∀ c ∈ word, isBlank c = false
  tail_ne_nil : tail ≠ []
  blank : ∀ c ∈ tail, isBlank c = true

theorem EndedWord.ended (h : EndedWord text front word tail) : Ended text := by
  intro c hc
  rw [h.whole, List.getLast?_append_of_ne_nil _ h.tail_ne_nil] at hc
  exact h.blank c (List.mem_of_getLast? hc)

/-- A text does not end with a word that white space ends. -/
theorem EndedWord.not_suffix (h : EndedWord text front word tail) : ¬ word <:+ text := by
  rintro ⟨before, hbefore⟩
  have hlast := List.getLast?_append_of_ne_nil before h.word_ne_nil
  rw [hbefore] at hlast
  obtain ⟨c, hc⟩ := Option.ne_none_iff_exists'.mp (mt List.getLast?_eq_none_iff.mp h.word_ne_nil)
  have hsolid := h.solid c (List.mem_of_getLast? hc)
  rw [h.ended c (hlast.trans hc)] at hsolid
  cases hsolid

theorem ended_append (hf : Ended front) (ht : Ended tail) : Ended (front ++ tail) := by
  by_cases hne : tail = []
  · rwa [hne, List.append_nil]
  · intro c hc
    rw [List.getLast?_append_of_ne_nil _ hne] at hc
    exact ht c hc

/-- **The word is the last one before the white space**, if that is no space. -/
theorem word_of_oddEnd (h : OddEnd text) :
    ∃ front tail, EndedWord text front (Typing.read text).word tail := by
  obtain ⟨c, hlast, hc, hspace⟩ := h
  obtain ⟨front, htext, hfront⟩ := exists_openStage text
  obtain ⟨tail, hstage, htail⟩ := exists_stripRight (openStage text)
  -- the stage without the white space at its end begins and ends with other characters
  have hsolid : ∀ d ∈ (stripRight (openStage text)).getLast?, isBlank d = false :=
    (trim_ends isBlank (afterLastPipe text)).2
  have hbody : stripRight (openStage text) ≠ [] := by
    intro hnil
    have hopen : openStage text = [] := stripLeft_eq_nil_iff.mpr hnil
    rw [hopen] at hlast
    cases hlast
  have hrun : lastRun (stripRight (openStage text)) ≠ [] := by
    intro hnil
    obtain ⟨d, hd⟩ := Option.ne_none_iff_exists'.mp (mt List.getLast?_eq_none_iff.mp hbody)
    have hblank := lastRun_eq_nil_iff.mp hnil d hd
    rw [hsolid d hd] at hblank
    cases hblank
  have hword : (Typing.read text).word = lastRun (stripRight (openStage text)) := by
    obtain ⟨before, hwords⟩ := words_eq_append_lastRun hrun
    have hends : ¬ endsWith [' '] (openStage text) = true := by
      rw [endsWith_space_iff, hlast, Option.some.injEq]
      exact hspace
    rw [read_word, if_neg hends, hstage, words_append_of_blank htail, hwords, List.getLastD_concat,
      ← hstage]
  obtain ⟨init, hinit, hinitEnd⟩ := exists_lastRun (stripRight (openStage text))
  rw [hword]
  refine ⟨front ++ init, tail, ?_, ended_append hfront hinitEnd, hrun,
    fun d hd => isBlank_of_mem_lastRun hd, ?_, strip_eq_nil_iff.mp htail⟩
  · rw [List.append_assoc front, ← hinit, List.append_assoc, ← hstage]
    exact htext
  · rintro rfl
    rw [List.append_nil] at hstage
    rw [hstage] at hlast
    have hfalse := hsolid c hlast
    rw [hc] at hfalse
    cases hfalse

/-- **The word is the end of the text** exactly if only spaces count as white space there. -/
theorem word_suffix_iff (text : Text) : (Typing.read text).word <:+ text ↔ ¬ OddEnd text := by
  constructor
  · intro hsuffix hodd
    obtain ⟨front, tail, hended⟩ := word_of_oddEnd hodd
    exact hended.not_suffix hsuffix
  · intro h
    rw [word_of_not_oddEnd h]
    exact lastRun_suffix text

/-! ### Accepting a completion -/

/-- What stays of a text when a completion is accepted. -/
def kept (text : Text) (completion : Completion) : Text :=
  text.take (text.length - completion.replaces)

theorem kept_append {rest : Text} (hr : completion.replaces = rest.length) :
    kept (front ++ rest) completion = front := by
  rw [kept, hr, List.length_append, Nat.add_sub_cancel, List.take_left]

/-- Every completion replaces as many characters as the word has. -/
theorem replaces_of_complete (h : complete interpreter text = .ok completions)
    (hc : completion ∈ completions) : completion.replaces = (Typing.read text).word.length := by
  unfold complete at h
  dsimp only at h
  cases hw : wordsFor interpreter (Typing.read text) with
  | error fault =>
    rw [hw] at h
    cases h
  | ok offer =>
    rw [hw] at h
    cases h
    obtain ⟨-, -, rfl⟩ := List.mem_map.mp hc
    rfl

/-- **A completion replaces the word at the end**, and nothing else. -/
structure Spares (text word : Text) (completion : Completion) : Prop where
  whole : kept text completion ++ word = text
  /-- What stays ends where the word begins. -/
  ended : Ended (kept text completion)
  solid : ∀ c ∈ word, isBlank c = false
  /-- After white space, nothing is replaced. -/
  unaltered : Ended text → kept text completion = text

theorem spares_of_not_oddEnd (h : ¬ OddEnd text)
    (hr : completion.replaces = (Typing.read text).word.length) :
    Spares text (Typing.read text).word completion := by
  obtain ⟨front, htext, hfront⟩ := exists_lastRun text
  rw [word_of_not_oddEnd h] at hr ⊢
  have hkept : kept text completion = front := by
    conv_lhs => rw [htext]
    exact kept_append hr
  refine ⟨?_, ?_, fun c hc => isBlank_of_mem_lastRun hc, fun hended => ?_⟩
  · rw [hkept, ← htext]
  · rwa [hkept]
  · rw [lastRun_eq_nil_iff.mpr hended, List.append_nil] at htext
    rw [hkept, ← htext]

/-- **A completion cuts off too much**: as many characters go as an ended word has, from the end of
the white space after it. -/
structure Cuts (text front word tail : Text) (completion : Completion) : Prop
    extends EndedWord text front word tail where
  kept_eq : kept text completion = front ++ (word ++ tail).take tail.length
  kept_append_ne : kept text completion ++ word ≠ text
  /-- The word stays whole exactly if there is at least as much white space. -/
  whole_iff : front ++ word <+: kept text completion ↔ word.length ≤ tail.length

theorem cuts_of_endedWord (h : EndedWord text front word tail)
    (hr : completion.replaces = word.length) : Cuts text front word tail completion := by
  have hkept : kept text completion = front ++ (word ++ tail).take tail.length := by
    have hcount : text.length - completion.replaces = front.length + tail.length := by
      rw [h.whole, hr, List.length_append, List.length_append]
      omega
    rw [kept, hcount, h.whole, List.append_assoc, List.take_length_add_append]
  refine ⟨h, hkept, fun heq => h.not_suffix ⟨_, heq⟩, ?_⟩
  rw [hkept, List.prefix_append_right_inj]
  constructor
  · intro hword
    have hlen := hword.length_le
    rw [List.length_take] at hlen
    omega
  · intro hlen
    rw [List.take_append, List.take_of_length_le hlen]
    exact List.prefix_append word _

/-- **What a completion replaces.** The word is the end of the text, and only the word goes, exactly
if only spaces count as white space at the end. -/
theorem completion_replaces (text : Text) :
    ((Typing.read text).word <:+ text ↔ ¬ OddEnd text) ∧
    ∀ {interpreter completions}, complete interpreter text = .ok completions →
      ∀ completion ∈ completions,
        (¬ OddEnd text → Spares text (Typing.read text).word completion) ∧
        (OddEnd text →
          ∃ front tail, Cuts text front (Typing.read text).word tail completion) := by
  refine ⟨word_suffix_iff text, fun h completion hc => ?_⟩
  have hr := replaces_of_complete h hc
  refine ⟨fun hodd => spares_of_not_oddEnd hodd hr, fun hodd => ?_⟩
  obtain ⟨front, tail, hended⟩ := word_of_oddEnd hodd
  exact ⟨front, tail, cuts_of_endedWord hended hr⟩

/-- A completion is put in the place of `READ`. If a tab stands after the word, it is put after
`cat R`. -/
theorem completion_replaces_item : ∃ completions, completions ≠ [] ∧
    complete (simulated (.str "C:")) "cat READ" = .ok completions ∧
    (∀ completion ∈ completions, Spares "cat READ" "READ" completion) ∧
    complete (simulated (.str "C:")) "cat READ\t" = .ok completions ∧
    ∀ completion ∈ completions, kept "cat READ\t" completion = "cat R" ∧
      ∃ front tail, Cuts "cat READ\t" front "READ" tail completion := by
  have hread : Typing.read "cat READ" = ⟨"cat", "READ", .argument⟩ := by decide
  have htab : Typing.read "cat READ\t" = ⟨"cat", "READ", .argument⟩ := by decide
  have hspaces : ¬ OddEnd "cat READ" := by
    rw [← word_suffix_iff, hread]
    decide
  have hodd : OddEnd "cat READ\t" := ⟨'\t', by decide⟩
  have hoffered : complete (simulated (.str "C:")) "cat READ" =
      .ok (ofWords "READ" itemWords []) := by
    rw [complete, hread]
    rfl
  have hofferedTab : complete (simulated (.str "C:")) "cat READ\t" =
      .ok (ofWords "READ" itemWords []) := by
    rw [complete, htab]
    rfl
  refine ⟨_, ?_, hoffered, fun completion hc => ?_, hofferedTab, fun completion hc => ?_⟩
  · rw [← List.length_pos_iff, ofWords, List.length_map, choose, List.length_mergeSort]
    decide
  · have hspared := ((completion_replaces "cat READ").2 hoffered completion hc).1 hspaces
    rwa [hread] at hspared
  · have hcut := ((completion_replaces "cat READ\t").2 hofferedTab completion hc).2 hodd
    rw [htab] at hcut
    refine ⟨?_, hcut⟩
    rw [kept, replaces_of_complete hofferedTab hc, htab]
    rfl

/-- After a tab the word before it counts as typed, though the text does not end with it. -/
theorem ended_word_typed : (Typing.read "Get-Location\t").word = "Get-Location" ∧
    ¬ (Typing.read "Get-Location\t").word <:+ "Get-Location\t" := by
  have hword : (Typing.read "Get-Location\t").word = "Get-Location" := by decide
  refine ⟨hword, ?_⟩
  rw [hword]
  decide

end CmdletShell.Proofs.Completions.Typed
