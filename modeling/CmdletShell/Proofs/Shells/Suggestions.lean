import CmdletShell.Interpreter.Suggestion
import CmdletShell.Proofs.Builtins.Default
import CmdletShell.Proofs.Builtins.Registrations
import CmdletShell.Proofs.Completions.Offered
import CmdletShell.Proofs.Texts.Similarity
import Mathlib.Algebra.Order.Field.Basic
import Mathlib.Data.Prod.Lex
import Mathlib.Data.Rat.Cast.Order

/-!
# The names that are suggested

Candidates are sorted by their scores, and by their texts among equal scores (`rank`). A candidate
has the score one exactly if it is the word itself, so a word that is a candidate comes first
(`closest_head`). The candidates are the names of commands and aliases in lower case, so a word that
names something is suggested first, in the letter case of what it names (`suggest_head`).

A name of a command can be run unless it is also an alias, but an alias can be run only if its
target is registered. So every suggestion can be run exactly if every alias can
(`suggestions_runnable`), and a word that cannot be run is suggested for itself exactly if it is an
alias. One of the aliases that are not configured is of that kind (`runnable_default_iff`), so not
every suggestion can be run (`unrunnable_suggested`).
-/

namespace CmdletShell.Proofs.Shells.Suggestions

open CmdletShell.Suggestion CmdletShell.Text CmdletShell.Cmdlet
open CmdletShell.Proofs.Builtins.Changes CmdletShell.Proofs.Builtins.Default
open CmdletShell.Proofs.Builtins.Fields
open CmdletShell.Proofs.Builtins.Registrations CmdletShell.Proofs.Builtins.Registry
open CmdletShell.Proofs.Completions.Offered CmdletShell.Proofs.Runs.Execution
open CmdletShell.Proofs.Texts.Case CmdletShell.Proofs.Texts.Order
open CmdletShell.Proofs.Texts.Similarity

variable {interpreter : Interpreter} {word other name : Text} {candidates names : List Text}
  {entries : List (Score × Text)} {extraAliases : Value}

/-! ### The order of scored names -/

/-- The place of a scored name: its score as a number, then its text. -/
def rank (entry : Score × Text) : ℚ ×ₗ Text :=
  toLex ((entry.1.part / entry.1.whole : ℚ), entry.2)

theorem ge_iff {a b : Score} (ha : 0 < a.whole) (hb : 0 < b.whole) :
    a.ge b = true ↔ (b.part / b.whole : ℚ) ≤ a.part / a.whole := by
  have ha' : (0 : ℚ) < a.whole := Nat.cast_pos.mpr ha
  have hb' : (0 : ℚ) < b.whole := Nat.cast_pos.mpr hb
  rw [Score.ge, decide_eq_true_iff, div_le_div_iff₀ hb' ha']
  exact_mod_cast Iff.rfl

theorem le_iff_rank {a b : Score × Text} (ha : 0 < a.1.whole) (hb : 0 < b.1.whole) :
    Suggestion.le a b = true ↔ rank b ≤ rank a := by
  rw [Suggestion.le, Bool.and_eq_true, Bool.or_eq_true, Bool.not_eq_true', ← Bool.not_eq_true,
    ge_iff ha hb, ge_iff hb ha, Texts.Order.le_iff, rank, rank, Prod.Lex.toLex_le_toLex]
  constructor
  · rintro ⟨hscore, hstrict | htext⟩
    · exact Or.inl (not_le.mp hstrict)
    · exact (lt_or_eq_of_le hscore).imp_right fun heq => ⟨heq, htext⟩
  · rintro (hscore | ⟨hscore, htext⟩)
    · exact ⟨hscore.le, Or.inl (not_le.mpr hscore)⟩
    · exact ⟨hscore.le, Or.inr htext⟩

/-- **Sorted, the scored names go down.** -/
theorem pairwise_sorted (h : ∀ entry ∈ entries, 0 < entry.1.whole) :
    (entries.mergeSort Suggestion.le).Pairwise fun a b => rank b ≤ rank a := by
  have hmap : (entries.mergeSort Suggestion.le).map rank =
      (entries.map rank).mergeSort fun a b => decide (b ≤ a) := by
    refine List.map_mergeSort fun a ha b hb => ?_
    rw [Bool.eq_iff_iff, decide_eq_true_iff, le_iff_rank (h a ha) (h b hb)]
  have hsorted : ((entries.map rank).mergeSort fun a b => decide (b ≤ a)).Pairwise
      fun a b => decide (b ≤ a) = true := by
    refine List.pairwise_mergeSort (fun a b c hab hbc => ?_) (fun a b => ?_) _
    · exact decide_eq_true ((of_decide_eq_true hbc).trans (of_decide_eq_true hab))
    · rw [Bool.or_eq_true, decide_eq_true_iff, decide_eq_true_iff]
      exact le_total b a
  rw [← hmap, List.pairwise_map] at hsorted
  exact hsorted.imp of_decide_eq_true

/-! ### The closest candidates -/

/-- The candidates that are similar enough to a word, with their scores. -/
def near (word : Text) (candidates : List Text) : List (Score × Text) :=
  (candidates.map fun name => (similarity name word, name)).filter fun entry =>
    entry.1.ge threshold

theorem mem_near {entry : Score × Text} : entry ∈ near word candidates ↔
    entry.2 ∈ candidates ∧ entry.1 = similarity entry.2 word ∧ entry.1.ge threshold = true := by
  rw [near, List.mem_filter, List.mem_map]
  constructor
  · rintro ⟨⟨name, hname, rfl⟩, hge⟩
    exact ⟨hname, rfl, hge⟩
  · rintro ⟨hname, hscore, hge⟩
    exact ⟨⟨entry.2, hname, Prod.ext hscore.symm rfl⟩, hge⟩

/-- Nothing ranks as high as the word itself. -/
theorem eq_of_rank_le (h : rank (similarity word word, word) ≤ rank (similarity name word, name)) :
    name = word := by
  have hwhole : ∀ name, (0 : ℚ) < (similarity name word).whole :=
    fun name => Nat.cast_pos.mpr (similarity_whole_pos name word)
  have hself : ((similarity word word).part / (similarity word word).whole : ℚ) = 1 := by
    rw [similarity_self, div_self (hwhole word).ne']
  rw [rank, rank, Prod.Lex.toLex_le_toLex] at h
  dsimp only at h
  rw [hself, one_lt_div (hwhole name), Nat.cast_lt, eq_comm, div_eq_one_iff_eq (hwhole name).ne',
    Nat.cast_inj] at h
  rcases h with hgreater | ⟨heq, -⟩
  · exact absurd (similarity_part_le name word) (not_le.mpr hgreater)
  · exact eq_of_part_eq_whole heq

/-- **A word that is a candidate comes first.** -/
theorem closest_head (h : word ∈ candidates) (count : Nat) :
    ∃ rest, closest (count + 1) word candidates = word :: rest := by
  have hself : (similarity word word, word) ∈ near word candidates := by
    refine mem_near.mpr ⟨h, rfl, ?_⟩
    rw [Score.ge, decide_eq_true_iff, similarity_self, threshold]
    dsimp only
    omega
  have hsorted : ((near word candidates).mergeSort Suggestion.le).Pairwise
      fun a b => rank b ≤ rank a :=
    pairwise_sorted fun entry hentry =>
      (mem_near.mp hentry).2.1 ▸ similarity_whole_pos entry.2 word
  have hmem : (similarity word word, word) ∈ (near word candidates).mergeSort Suggestion.le :=
    List.mem_mergeSort.mpr hself
  obtain ⟨first, rest, hfirst⟩ := List.exists_cons_of_ne_nil (List.ne_nil_of_mem hmem)
  have hnear : first ∈ near word candidates :=
    List.mem_mergeSort.mp (hfirst ▸ List.mem_cons_self)
  rw [hfirst] at hsorted hmem
  -- nothing stands before the word, so it stands first
  have hrank : rank (similarity word word, word) ≤ rank first := by
    rcases List.mem_cons.mp hmem with hsame | hmem
    · rw [hsame]
    · exact (List.pairwise_cons.mp hsorted).1 _ hmem
  have hscore : first = (similarity first.2 word, first.2) :=
    Prod.ext (mem_near.mp hnear).2.1 rfl
  rw [hscore] at hrank
  have hclosest : closest (count + 1) word candidates =
      (((near word candidates).mergeSort Suggestion.le).take (count + 1)).map (·.2) := rfl
  rw [hclosest, hfirst, List.take_succ_cons, List.map_cons, eq_of_rank_le hrank]
  exact ⟨_, rfl⟩

/-! ### Names in any letter case -/

theorem mem_names_lowered :
    name ∈ (lowered names).names ↔ ∃ other ∈ names, lower other = name := by
  have hchanges : Fields.names (names.map fun name => (lower name, name)) = names.map lower := by
    rw [Fields.names, List.map_map]
    rfl
  rw [lowered, mem_names_update, hchanges, List.mem_map]
  exact or_iff_right List.not_mem_nil

theorem lowered_get? (h : (lowered names).get? word = some name) :
    name ∈ names ∧ lower name = word := by
  rcases mem_update _ (mem_of_get? h) with hnil | hentry
  · cases hnil
  · obtain ⟨other, hother, heq⟩ := List.mem_map.mp hentry
    obtain ⟨hword, rfl⟩ := Prod.mk.inj heq
    exact ⟨hother, hword⟩

theorem mem_among (h : name ∈ among names word) : name ∈ names := by
  obtain ⟨key, -, hget⟩ := List.mem_filterMap.mp h
  exact (lowered_get? hget).1

/-- **A name is the closest to itself, in any letter case.** -/
theorem among_head (h : ∃ other ∈ names, lower other = lower word) :
    ∃ name rest, among names word = name :: rest ∧ lower name = lower word := by
  have hkey := mem_names_lowered.mpr h
  obtain ⟨name, hname⟩ := Option.isSome_iff_exists.mp (isSome_get?_iff.mpr hkey)
  obtain ⟨rest, hrest⟩ := closest_head hkey 2
  have hamong : among names word = (closest 3 (lower word) (lowered names).names).filterMap
      fun key => (lowered names).get? key := rfl
  rw [hamong, hrest, List.filterMap_cons, hname]
  exact ⟨name, _, rfl, (lowered_get? hname).2⟩

/-! ### Words that can be run -/

/-- The word resolves, by way of the aliases, to a registered command. -/
def Runnable (interpreter : Interpreter) (word : Text) : Prop :=
  ∃ command, interpreter.command? word = .ok (some command)

/-- The letter case of a word makes no difference. -/
theorem runnable_congr (h : lower other = lower word) :
    Runnable interpreter other ↔ Runnable interpreter word := by
  have hcommand : interpreter.command? other = interpreter.command? word := by
    rw [Interpreter.command?, Interpreter.command?, State.resolveAlias, State.resolveAlias, h]
    cases interpreter.state.aliases.get? (lower word) with
    | none =>
      rw [Option.getD_none, Option.getD_none, Registry.lookup, Registry.lookup, Registry.get?,
        Registry.get?, h]
    | some target => rfl
  rw [Runnable, Runnable, hcommand]

/-- An alias can be run if its target is the name of a built-in command, and otherwise not. -/
theorem runnable_alias_iff {target : Text} (hr : interpreter.registry = .default)
    (ha : interpreter.state.aliases.get? (lower word) = some (.str target)) :
    Runnable interpreter word ↔
      lower target ∈ (builtins.flatMap (·.2)).map (·.description.key) := by
  rw [Runnable, Interpreter.command?, State.resolveAlias, ha, Option.getD_some, hr]
  constructor
  · rintro ⟨command, hcommand⟩
    by_contra hn
    rw [lookup_default_eq_none hn] at hcommand
    cases hcommand
  · intro h
    obtain ⟨command, hmem, hkey⟩ := List.mem_map.mp h
    exact ⟨_, lookup_default hmem hkey.symm⟩

/-- The names of commands can be run, unless an alias stands before them. -/
theorem runnable_of_mem_names (hr : interpreter.registry = .default)
    (hn : name ∈ interpreter.registry.names)
    (ha : lower name ∉ interpreter.state.aliases.names) : Runnable interpreter name := by
  have hnone : interpreter.state.aliases.get? (lower name) = none := by
    rw [← Option.not_isSome_iff_eq_none, isSome_get?_iff]
    exact ha
  rw [Runnable, Interpreter.command?, State.resolveAlias, hnone, Option.getD_none]
  rw [hr] at hn ⊢
  obtain ⟨command, hmem, rfl⟩ := mem_names_iff.mp hn
  obtain ⟨built, hbuilt, rfl⟩ := List.mem_map.mp (mem_commands_ofList hmem)
  exact ⟨_, lookup_default hbuilt (key_complete built)⟩

/-! ### Suggestions -/

/-- The names of configured aliases are in lower case. -/
theorem lower_of_mem_aliases {aliases : Fields Value}
    (h : State.addAliases (State.textFields State.defaultAliases) extraAliases = .ok aliases)
    (hn : name ∈ aliases.names) : lower name = name := by
  have hdefault : ∀ name ∈ (State.textFields State.defaultAliases).names, lower name = name := by
    decide
  unfold State.addAliases at h
  split at h
  · cases h
    rcases (mem_names_update _).mp hn with hn | hn
    · exact hdefault name hn
    · obtain ⟨change, hchange, rfl⟩ := List.mem_map.mp hn
      obtain ⟨field, -, rfl⟩ := List.mem_map.mp hchange
      exact lower_lower field.1
  · split_ifs at h
    cases h
    exact hdefault name hn

/-- A word that names something in some letter case is suggested first. -/
theorem suggest_head (h : ∃ other ∈ interpreter.commandNames, lower other = lower word) :
    ∃ name rest, interpreter.suggest word = name :: rest ∧ lower name = lower word :=
  among_head h

/-- **Every suggestion can be run exactly if every alias can.** The suggestions are names of
commands and aliases; one that is no alias can be run. A word that cannot be run is suggested for
itself, in some letter case, exactly if it is an alias. -/
theorem suggestions_runnable (interpreter : Interpreter) (extraAliases : Value)
    (hr : interpreter.registry = .default)
    (ha : State.addAliases (State.textFields State.defaultAliases) extraAliases =
      .ok interpreter.state.aliases) :
    (∀ word, ∀ name ∈ interpreter.suggest word, name ∈ interpreter.commandNames ∧
      (lower name ∉ interpreter.state.aliases.names → Runnable interpreter name)) ∧
    ((∀ word, ∀ name ∈ interpreter.suggest word, Runnable interpreter name) ↔
      ∀ name ∈ interpreter.state.aliases.names, Runnable interpreter name) ∧
    ∀ word, ¬ Runnable interpreter word →
      ((∃ name ∈ interpreter.suggest word, lower name = lower word) ↔
        lower word ∈ interpreter.state.aliases.names) := by
  have hoffered : ∀ {name}, name ∈ interpreter.commandNames →
      lower name ∉ interpreter.state.aliases.names → Runnable interpreter name := by
    intro name hname hn
    rcases (mem_commandNames name).mp hname with hcommand | halias
    · exact runnable_of_mem_names hr hcommand hn
    · rw [lower_of_mem_aliases ha halias] at hn
      exact absurd halias hn
  have hself : ∀ word, lower word ∈ interpreter.state.aliases.names →
      ∃ name ∈ interpreter.suggest word, lower name = lower word := by
    intro word hword
    obtain ⟨name, rest, hsuggest, hlower⟩ := suggest_head
      ⟨lower word, (mem_commandNames _).mpr (Or.inr hword), lower_lower word⟩
    exact ⟨name, hsuggest ▸ List.mem_cons_self, hlower⟩
  refine ⟨fun word name h => ⟨mem_among h, hoffered (mem_among h)⟩, ⟨fun h name hname => ?_,
    fun h word name hname => ?_⟩, fun word hword => ⟨?_, hself word⟩⟩
  · have hlower := lower_of_mem_aliases ha hname
    obtain ⟨other, hother, hsame⟩ := hself name (hlower.symm ▸ hname)
    exact (runnable_congr hsame).mp (h name other hother)
  · by_cases hn : lower name ∈ interpreter.state.aliases.names
    · exact (runnable_congr (lower_lower name)).mp (h _ hn)
    · exact hoffered (mem_among hname) hn
  · rintro ⟨name, hname, hsame⟩
    by_contra hn
    exact hword ((runnable_congr hsame).mp (hoffered (mem_among hname) (hsame ▸ hn)))

/-- **Of the aliases that are not configured one cannot be run.** -/
theorem runnable_default_iff (home : Text) (hn : name ∈ (fresh home).state.aliases.names) :
    Runnable (fresh home) name ↔ name ≠ "kill" := by
  have haliases : (fresh home).state.aliases = State.textFields State.defaultAliases := rfl
  have hnames : (State.textFields State.defaultAliases).names.Nodup := by decide
  have htargets : ∀ field ∈ State.defaultAliases, lower field.1 = field.1 ∧
      (lower field.2 ∈ (builtins.flatMap (·.2)).map (·.description.key) ↔ field.1 ≠ "kill") := by
    decide +kernel
  rw [haliases] at hn
  obtain ⟨entry, hentry, rfl⟩ := List.mem_map.mp hn
  have hget := get?_of_mem hnames hentry
  obtain ⟨field, hfield, rfl⟩ := List.mem_map.mp hentry
  obtain ⟨hlower, hkey⟩ := htargets field hfield
  rw [← hkey]
  exact runnable_alias_iff (fresh_registry home) (by rw [haliases, hlower, hget])

/-- It is suggested for itself. -/
theorem suggestions_runnable_kill :
    (fresh "C:").registry = .default ∧
    State.addAliases (State.textFields State.defaultAliases) .null =
      .ok (fresh "C:").state.aliases ∧
    ¬ Runnable (fresh "C:") "kill" ∧
    ∃ name ∈ (fresh "C:").suggest "kill", lower name = lower "kill" := by
  obtain ⟨-, -, hself⟩ := suggestions_runnable (fresh "C:") .null rfl rfl
  have hname : ("kill" : Text) ∈ (fresh "C:").state.aliases.names := by decide
  have hn : ¬ Runnable (fresh "C:") "kill" := fun h => (runnable_default_iff "C:" hname).mp h rfl
  exact ⟨rfl, rfl, hn, (hself _ hn).mpr hname⟩

/-- So not every suggestion can be run. -/
theorem unrunnable_suggested : ¬ ∀ (interpreter : Interpreter) (extraAliases : Value),
    interpreter.registry = .default →
    State.addAliases (State.textFields State.defaultAliases) extraAliases =
      .ok interpreter.state.aliases →
    ∀ word, ∀ name ∈ interpreter.suggest word, Runnable interpreter name := by
  intro h
  have hname : ("kill" : Text) ∈ (fresh "C:").state.aliases.names := by decide
  obtain ⟨name, rest, hsuggest, hlower⟩ := @suggest_head (fresh "C:") "kill"
    ⟨"kill", (mem_commandNames _).mpr (Or.inr hname), rfl⟩
  have hrunnable := h (fresh "C:") .null rfl rfl "kill" name (hsuggest ▸ List.mem_cons_self)
  exact (runnable_default_iff "C:" hname).mp ((runnable_congr hlower).mp hrunnable) rfl

end CmdletShell.Proofs.Shells.Suggestions
