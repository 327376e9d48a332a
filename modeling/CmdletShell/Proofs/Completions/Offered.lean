import CmdletShell.Proofs.Completions.Dispatched
import CmdletShell.Proofs.Completions.Ranking
import CmdletShell.Proofs.Texts.Order

/-!
# The words that are offered

What is typed is completed by command names, by flags or by items (`Candidates`). The completions
are exactly those of these words that match what is typed, best match first (`Completes`): each
shows its word and replaces what is typed, and a command is noted with its summary (`Shows`).

There are completions whenever every alias has a text as its target (`completions_offered`).
-/

namespace CmdletShell.Proofs.Completions.Offered

open CmdletShell.Completion CmdletShell.Text
open CmdletShell.Proofs.Lines.Unquoted CmdletShell.Proofs.Builtins.Fields
open CmdletShell.Proofs.Texts.Order CmdletShell.Proofs.Runs.Names
open CmdletShell.Proofs.Completions.Typed CmdletShell.Proofs.Completions.Dispatched
open CmdletShell.Proofs.Completions.Matching CmdletShell.Proofs.Completions.Ranking

variable {interpreter : Interpreter} {text word typed : Text} {words : List Text}
variable {typing : Typing} {hits : List Hit} {completions : List Completion}

/-! ### What is offered -/

/-- **The words from which to choose**, by the kind of what is typed. -/
inductive Candidates (interpreter : Interpreter) (typing : Typing) : List Text → Prop
  /-- The names of the commands and the aliases, in order, each once. -/
  | command {words : List Text} : typing.part = .command → words.Pairwise (· < ·) →
      (∀ name, name ∈ words ↔
        name ∈ interpreter.registry.names ∨ name ∈ interpreter.state.aliases.names) →
      Candidates interpreter typing words
  /-- The flags of the command that is typed, if there is one. -/
  | flag {found : Option Command} : typing.part = .flag →
      interpreter.command? typing.command = .ok found →
      Candidates interpreter typing ((found.map (·.description.flags)).getD [])
  /-- The names of the items. -/
  | argument : typing.part = .argument → Candidates interpreter typing itemWords

/-- **A completion shows a word that matches.** -/
structure Shows (interpreter : Interpreter) (typing : Typing) (hit : Hit)
    (completion : Completion) : Prop where
  text : completion.text = hit.word
  replaces : completion.replaces = typing.word.length
  /-- The pieces that are displayed spell the word. -/
  spelled : (completion.display.map (·.2)).flatten = hit.word
  /-- A command is noted with its summary. -/
  noted : typing.part = .command → ∃ summary, interpreter.describe hit.word = .ok summary ∧
    completion.note = summary.getD []
  unnoted : typing.part ≠ .command → completion.note = []

/-- **The completions are the words that match**, best match first. -/
structure Completes (interpreter : Interpreter) (typing : Typing) (words : List Text)
    (completions : List Completion) : Prop where
  shown : ∃ hits, Ranked typing.word words hits ∧
    List.Forall₂ (Shows interpreter typing) hits completions
  /-- If nothing is typed, all words are offered in their order. -/
  all : typing.word = [] → completions.map (·.text) = words
  /-- A word without line breaks is offered as often as it is there if what is typed occurs in it
  in order, and not at all otherwise. -/
  inOrder : ∀ word, '\n' ∉ word → InOrder typing.word word →
    (completions.map (·.text)).count word = words.count word
  notInOrder : ∀ word, '\n' ∉ word → ¬ InOrder typing.word word →
    word ∉ completions.map (·.text)

/-! ### The pieces that are displayed -/

theorem flatten_markTyped : ∀ typed word : Text,
    ((markTyped typed word).map (·.2)).flatten = word
  | _, [] => by simp [markTyped]
  | [], c :: rest => by
    rw [markTyped, List.map_cons, List.flatten_cons, flatten_markTyped [] rest]
    rfl
  | t :: typed, c :: rest => by
    rw [markTyped]
    split_ifs
    · rw [List.map_cons, List.flatten_cons, flatten_markTyped typed rest]
      rfl
    · rw [List.map_cons, List.flatten_cons, flatten_markTyped (t :: typed) rest]
      rfl

/-- The pieces of a word spell it. -/
theorem flatten_pieces (typed word : Text) (found : Match) :
    ((found.pieces typed word).map (·.2)).flatten = word := by
  unfold Match.pieces
  split_ifs
  · simp
  · dsimp only
    rw [List.map_cons, List.map_append, List.map_singleton, List.flatten_cons, List.flatten_append,
      flatten_markTyped, List.flatten_singleton, ← List.drop_drop, List.take_append_drop,
      List.take_append_drop]

/-! ### The words -/

theorem mem_commandNames (name : Text) : name ∈ interpreter.commandNames ↔
    name ∈ interpreter.registry.names ∨ name ∈ interpreter.state.aliases.names := by
  rw [Interpreter.commandNames, mem_sortUnique, List.mem_append]

/-- The word that is typed has no line break. -/
theorem newline_notMem_word (text : Text) : '\n' ∉ (Typing.read text).word := by
  have hsolid : ∀ c ∈ (Typing.read text).word, isBlank c = false := by
    by_cases h : OddEnd text
    · obtain ⟨front, tail, hended⟩ := word_of_oddEnd h
      exact hended.solid
    · rw [word_of_not_oddEnd h]
      exact fun c hc => isBlank_of_mem_lastRun hc
  intro hmem
  have hblank := hsolid '\n' hmem
  revert hblank
  decide

/-- **The words are the candidates**, with the summaries of those that are commands. -/
structure WordsFor (interpreter : Interpreter) (typing : Typing) (words : List Text)
    (notes : Fields Text) : Prop where
  candidates : Candidates interpreter typing words
  noted : typing.part = .command → ∀ word ∈ words, ∃ summary,
    interpreter.describe word = .ok summary ∧ (notes.get? word).getD [] = summary.getD []
  unnoted : typing.part ≠ .command → notes = []

/-- Names that can all be described are noted with their summaries. By induction on the names. -/
theorem mapM_describe_ok : ∀ {names : List Text} {notes : Fields Text},
    (names.mapM fun name => (interpreter.describe name).map fun summary =>
      (name, summary.getD [])) = .ok notes →
    notes.names = names ∧ ∀ name note, (name, note) ∈ notes →
      ∃ summary, interpreter.describe name = .ok summary ∧ note = summary.getD []
  | [], _, h => by
    cases h
    exact ⟨rfl, fun _ _ hmem => absurd hmem List.not_mem_nil⟩
  | name :: names, _, h => by
    rw [List.mapM_cons] at h
    obtain ⟨entry, hentry, h⟩ := ok_of_bind h
    obtain ⟨notes, hnotes, h⟩ := ok_of_bind h
    cases h
    obtain ⟨summary, hs, rfl⟩ := ok_of_map hentry
    obtain ⟨hnames, hall⟩ := mapM_describe_ok hnotes
    refine ⟨congrArg (name :: ·) hnames, fun other note hmem => ?_⟩
    rcases List.mem_cons.mp hmem with heq | hmem
    · obtain ⟨rfl, rfl⟩ := Prod.mk.inj heq
      exact ⟨summary, hs, rfl⟩
    · exact hall other note hmem

theorem wordsFor_ok {notes : Fields Text}
    (h : wordsFor interpreter typing = .ok (words, notes)) :
    WordsFor interpreter typing words notes := by
  unfold wordsFor at h
  cases hp : typing.part with
  | command =>
    rw [hp] at h
    obtain ⟨notes, hdescribed, hwords⟩ := ok_of_bind h
    cases hwords
    obtain ⟨hnames, hnotes⟩ := mapM_describe_ok hdescribed
    have hwords : notes.map (·.1) = interpreter.commandNames := hnames
    rw [hwords]
    refine ⟨.command hp (pairwise_sortUnique _) mem_commandNames, fun _ word hword => ?_,
      fun hne => absurd hp hne⟩
    rw [← hnames] at hword
    obtain ⟨note, hnote⟩ := Option.isSome_iff_exists.mp (isSome_get?_iff.mpr hword)
    obtain ⟨summary, hs, rfl⟩ := hnotes word note (mem_of_get? hnote)
    exact ⟨summary, hs, by rw [hnote]; rfl⟩
  | flag =>
    rw [hp] at h
    obtain ⟨flags, hflags, hwords⟩ := ok_of_bind h
    cases hwords
    obtain ⟨found, hfound, rfl⟩ : ∃ found, interpreter.command? typing.command = .ok found ∧
        words = (found.map (·.description.flags)).getD [] := by
      unfold flagWords at hflags
      cases hl : interpreter.command? typing.command with
      | error fault => rw [hl] at hflags; cases hflags
      | ok found =>
        rw [hl] at hflags
        cases hflags
        exact ⟨found, rfl, by cases found <;> rfl⟩
    exact ⟨.flag hp hfound, fun hc => absurd (hp.symm.trans hc) (by decide),
      fun _ => rfl⟩
  | argument =>
    rw [hp] at h
    cases h
    exact ⟨.argument hp, fun hc => absurd (hp.symm.trans hc) (by decide),
      fun _ => rfl⟩

/-! ### The completions -/

theorem text_ofWords (typed : Text) (words : List Text) (notes : Fields Text) :
    (ofWords typed words notes).map (·.text) = (choose typed words).map (·.2) := by
  rw [ofWords, List.map_map]
  rfl

theorem shows_of_ranked {notes : Fields Text} (hw : WordsFor interpreter typing words notes)
    (hr : Ranked typing.word words hits)
    (hc : choose typing.word words = hits.map fun hit => (hit.found, hit.word)) :
    List.Forall₂ (Shows interpreter typing) hits (ofWords typing.word words notes) := by
  rw [ofWords, hc, List.map_map, List.forall₂_map_right_iff, List.forall₂_same]
  intro hit hmem
  have hword : hit.word ∈ words := List.mem_of_getElem? ((hr.mem_iff hit).mp hmem).1
  refine ⟨rfl, rfl, flatten_pieces typing.word hit.word hit.found,
    fun hp => hw.noted hp hit.word hword, fun hp => ?_⟩
  rw [hw.unnoted hp]
  rfl

theorem isSome_find?_iff (htyped : '\n' ∉ typed) (hword : '\n' ∉ word) :
    (Match.find? typed word).isSome = true ↔ InOrder typed word := by
  rw [← exists_best_iff htyped hword, Option.isSome_iff_exists]
  exact exists_congr fun found => find?_eq_some_iff htyped

theorem completes_ofWords {notes : Fields Text} (hline : '\n' ∉ typing.word)
    (hw : WordsFor interpreter typing words notes) :
    Completes interpreter typing words (ofWords typing.word words notes) := by
  obtain ⟨hits, hranked, hchoose⟩ := exists_ranked hline words
  refine ⟨⟨hits, hranked, shows_of_ranked hw hranked hchoose⟩, fun hnil => ?_,
    fun word hword h => ?_, fun word hword h => ?_⟩
  · rw [text_ofWords, hnil, choose_nil]
  · rw [text_ofWords, (perm_choose typing.word words).count_eq]
    exact List.count_filter ((isSome_find?_iff hline hword).mpr h)
  · rw [text_ofWords, (perm_choose typing.word words).mem_iff, List.mem_filter,
      isSome_find?_iff hline hword]
    exact fun hmem => h hmem.2

theorem exists_wordsFor (ha : TextAliases interpreter.state) (typing : Typing) :
    ∃ offer, wordsFor interpreter typing = .ok offer := by
  unfold wordsFor
  cases typing.part with
  | command =>
    have hwords : (commandWords interpreter).isOk = true := by
      refine isOk_mapM.mpr fun name _ => ?_
      rw [isOk_map, Interpreter.describe, isOk_map, command?_eq ha]
      rfl
    obtain ⟨words, hwords⟩ := isOk_iff.mp hwords
    exact ⟨_, by rw [hwords]; rfl⟩
  | flag =>
    have hwords : (flagWords interpreter typing.command).isOk = true := by
      rw [flagWords, isOk_map, command?_eq ha]
      rfl
    obtain ⟨words, hwords⟩ := isOk_iff.mp hwords
    exact ⟨_, by rw [hwords]; rfl⟩
  | argument => exact ⟨_, rfl⟩

/-- **Completion is sound and complete**: what is offered are exactly the candidates that match what
is typed, in order. -/
theorem completions_offered (interpreter : Interpreter) (text : Text) :
    (∀ completions, complete interpreter text = .ok completions →
      ∃ words, Candidates interpreter (Typing.read text) words ∧
        Completes interpreter (Typing.read text) words completions) ∧
    (TextAliases interpreter.state →
      ∃ completions, complete interpreter text = .ok completions) := by
  constructor
  · intro completions h
    obtain ⟨⟨words, notes⟩, hwords, hoffer⟩ := ok_of_bind h
    cases hoffer
    have hw := wordsFor_ok hwords
    exact ⟨words, hw.candidates, completes_ofWords (newline_notMem_word text) hw⟩
  · intro ha
    obtain ⟨⟨words, notes⟩, hwords⟩ := exists_wordsFor ha (Typing.read text)
    exact ⟨ofWords (Typing.read text).word words notes, by rw [complete, hwords]; rfl⟩

theorem making_textAliases : TextAliases making.state := by
  intro name value h
  have heq := List.mem_singleton.mp (mem_of_get? h)
  exact ⟨"New-ITEM", (Prod.mk.inj heq).2⟩

/-- The letters of `RD` stand in order in one item, and not in another. -/
theorem completions_offered_item : TextAliases making.state ∧
    ∃ completions, complete making "cat RD" = .ok completions ∧
      (completions.map (·.text)).count ("README.txt" : Text) = 1 ∧
      ("Downloads" : Text) ∉ completions.map (·.text) := by
  have hread : Typing.read "cat RD" = ⟨"cat", "RD", .argument⟩ := by decide
  obtain ⟨hsound, hoffered⟩ := completions_offered making "cat RD"
  obtain ⟨completions, hcompletions⟩ := hoffered making_textAliases
  obtain ⟨words, hwords, hcompletes⟩ := hsound completions hcompletions
  rw [hread] at hwords hcompletes
  have hitems : words = itemWords := by
    cases hwords with
    | command hp => cases hp
    | flag hp => cases hp
    | argument => rfl
  subst hitems
  have hfound : InOrder "RD" "README.txt" :=
    (isSome_find?_iff (by decide) (by decide)).mp (by decide)
  have hmissed : ¬ InOrder "RD" "Downloads" :=
    mt (isSome_find?_iff (by decide) (by decide)).mpr (by decide)
  refine ⟨making_textAliases, completions, hcompletions, ?_,
    hcompletes.notInOrder _ (by decide) hmissed⟩
  rw [hcompletes.inOrder _ (by decide) hfound]
  decide

end CmdletShell.Proofs.Completions.Offered
