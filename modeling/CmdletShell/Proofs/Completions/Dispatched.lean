import CmdletShell.Proofs.Completions.Typed
import CmdletShell.Proofs.Runs.Names

/-!
# The command whose flags are offered

What is typed is read from the right and cut at white space; what is run is cut into stages from the
left, and each stage into tokens. Both find the same command in the last stage of a text without
quotes, unless two separators share a space (`command_eq`).

So the flags that are offered are those of the command whose handler the last stage runs (`Offers`,
`flags_offered`), and there are none if the stage is not recognized.
-/

namespace CmdletShell.Proofs.Completions.Dispatched

open CmdletShell.Completion CmdletShell.Interpreter CmdletShell.Line CmdletShell.Text
open CmdletShell.Proofs.Lines.Strip CmdletShell.Proofs.Lines.Stages
open CmdletShell.Proofs.Lines.Unquoted CmdletShell.Proofs.Lines.LastPipe
open CmdletShell.Proofs.Completions.Typed
open CmdletShell.Proofs.Runs.Actions CmdletShell.Proofs.Runs.Execution
open CmdletShell.Proofs.Runs.Names

variable {interpreter : Interpreter} {text line word : Text} {args : List Text}
variable {command : Command} {target : Text}

/-! ### The command -/

/-- The stage that a text ends with. -/
def lastStage (text : Text) : Text := (stages text).getLast (stages_ne_nil text)

theorem lastStage_eq (h : ¬ overlapping <:+: text) : lastStage text = strip (openStage text) :=
  getLast_stages h (stages_ne_nil text)

/-- The tokens of the last stage are the words of the stage that is being typed. -/
theorem tokenize_lastStage (hq : '"' ∉ text) (ho : ¬ overlapping <:+: text) :
    tokenize (lastStage text) = words (openStage text) := by
  obtain ⟨front, htext, -⟩ := exists_openStage text
  have hpart : strip (openStage text) <:+: text := by
    refine (strip_isInfix _).trans ?_
    conv_rhs => rw [htext]
    exact (List.suffix_append front _).isInfix
  rw [lastStage_eq ho, tokenize_eq_words fun h => hq (hpart.subset h), words_strip]

/-- **The command that is read is the first token of the last stage**, or empty if that is blank. -/
theorem command_eq (hq : '"' ∉ text) (ho : ¬ overlapping <:+: text) :
    lastStage text = [] ∧ (Typing.read text).command = [] ∨
      ∃ args, tokenize (lastStage text) = (Typing.read text).command :: args := by
  rw [read_command, tokenize_lastStage hq ho]
  cases hw : words (openStage text) with
  | cons command args => exact Or.inr ⟨args, rfl⟩
  | nil =>
    refine Or.inl ⟨?_, rfl⟩
    rw [lastStage_eq ho, strip_of_words_eq_nil hw]

/-- A flag stands after a command. -/
theorem words_ne_nil_of_flag (h : (Typing.read text).part = .flag) :
    words (openStage text) ≠ [] := by
  unfold Typing.read at h
  dsimp only at h
  split at h
  · cases h
  · next hw => rw [openStage, hw]; exact List.cons_ne_nil _ _

/-! ### What a stage runs -/

/-- The handlers that a line runs are told apart by their notes. -/
theorem calls_unique {keys keys' : List Text} (h : Calls interpreter line keys)
    (h' : Calls interpreter line keys') : keys = keys' := by
  have hnotes := congrArg Outcome.entries ((h []).symm.trans (h' []))
  have hkeys := List.append_cancel_right hnotes
  refine List.map_injective_iff.mpr ?_ hkeys
  intro key key' hentry
  exact congrArg Entry.message hentry

/-- A word stands for a name, or it cannot be looked up in any registry. -/
theorem resolveAlias_cases (state : State) (word : Text) :
    state.resolveAlias word = .str (standsFor state word) ∨
      ∃ fault, ∀ registry : Registry, registry.lookup (state.resolveAlias word) = .error fault := by
  unfold State.resolveAlias standsFor
  cases state.aliases.get? (lower word) with
  | none => exact Or.inl rfl
  | some value =>
    cases value with
    | str target => exact Or.inl rfl
    | _ => exact Or.inr ⟨_, fun _ => rfl⟩

theorem command?_cases (interpreter : Interpreter) (word : Text) :
    (∀ mark, (watched mark interpreter).command? word =
        .ok (named? (watched mark interpreter) word)) ∧
      interpreter.command? word = .ok (named? interpreter word) ∨
    ∃ fault, (∀ mark, (watched mark interpreter).command? word = .error fault) ∧
      interpreter.command? word = .error fault := by
  rcases resolveAlias_cases interpreter.state word with h | ⟨fault, h⟩
  · refine Or.inl ⟨fun mark => ?_, ?_⟩
    · exact congrArg (watched mark interpreter).registry.lookup h
    · exact congrArg interpreter.registry.lookup h
  · exact Or.inr ⟨fault, fun mark => h (watched mark interpreter).registry, h interpreter.registry⟩

/-! ### The flags -/

theorem ran_of_found (ht : tokenize line = word :: args)
    (hl : interpreter.command? word = .ok (some command)) :
    ran interpreter line = handled interpreter command args := by
  rw [ran, runStage_of_tokenize ht]
  exact dispatch_some hl

theorem ran_of_missing (ht : tokenize line = word :: args)
    (hl : interpreter.command? word = .ok none) :
    ran interpreter line = ⟨.error (.notRecognized word), interpreter.state, []⟩ := by
  rw [ran, runStage_of_tokenize ht]
  exact dispatch_none hl

theorem ran_of_fault {fault : Fault} (ht : tokenize line = word :: args)
    (hl : interpreter.command? word = .error fault) :
    ran interpreter line = ⟨.error (.fault fault), interpreter.state, []⟩ := by
  rw [ran, runStage_of_tokenize ht]
  exact dispatch_error hl

/-- **The flags that are offered for the command of a stage**, by what the stage runs. -/
inductive Offers (interpreter : Interpreter) (stage : Text) :
    Except Fault (List Text × Fields Text) → Prop
  /-- The stage runs one handler: the flags are those of its command. -/
  | dispatched {key : Text} {command : Command} : Calls interpreter stage [key] →
      interpreter.registry.entries.get? key = some command →
      Offers interpreter stage (.ok (command.description.flags, []))
  /-- The stage runs none and is not recognized: there are no flags. -/
  | unrecognized {word : Text} : Calls interpreter stage [] →
      (ran interpreter stage).result = .error (.notRecognized word) →
      Offers interpreter stage (.ok ([], []))
  /-- The word cannot be looked up at all, as the target of its alias is no text. -/
  | faulty {fault : Fault} : Calls interpreter stage [] →
      (ran interpreter stage).result = .error (.fault fault) →
      Offers interpreter stage (.error fault)

/-- What is offered is determined by what the stage runs. -/
theorem Offers.unique {stage : Text} {offer offer' : Except Fault (List Text × Fields Text)}
    (h : Offers interpreter stage offer) (h' : Offers interpreter stage offer') :
    offer = offer' := by
  cases h with
  | dispatched hc hg =>
    cases h' with
    | dispatched hc' hg' =>
      obtain ⟨rfl, -⟩ := List.cons.inj (calls_unique hc hc')
      rw [hg, Option.some.injEq] at hg'
      rw [hg']
    | unrecognized hc' hr' => exact absurd (calls_unique hc hc') (List.cons_ne_nil _ _)
    | faulty hc' hr' => exact absurd (calls_unique hc hc') (List.cons_ne_nil _ _)
  | unrecognized hc hr =>
    cases h' with
    | dispatched hc' hg' => exact absurd (calls_unique hc' hc) (List.cons_ne_nil _ _)
    | unrecognized hc' hr' => rfl
    | faulty hc' hr' =>
      rw [hr] at hr'
      cases hr'
  | faulty hc hr =>
    cases h' with
    | dispatched hc' hg' => exact absurd (calls_unique hc' hc) (List.cons_ne_nil _ _)
    | unrecognized hc' hr' =>
      rw [hr] at hr'
      cases hr'
    | faulty hc' hr' =>
      rw [hr] at hr'
      cases hr'
      rfl

/-- **The flags that are offered for a word are those of the command its stage runs.** -/
theorem offers_flagWords (ht : tokenize line = word :: args) : Offers interpreter line
    ((flagWords interpreter word).map fun flags => (flags, [])) := by
  unfold flagWords
  rcases command?_cases interpreter word with ⟨hw, hl⟩ | ⟨fault, hw, hl⟩
  · rw [hl]
    cases hn : named? interpreter word with
    | some command =>
      rw [hn] at hl
      have hcalls : Calls interpreter line [keyOf interpreter word] := by
        intro mark
        have hmarked := hw mark
        rw [named?_watched, hn] at hmarked
        rw [ran_of_found ht hmarked, ran_of_found ht hl]
        exact handled_marked mark (keyOf interpreter word)
      exact .dispatched hcalls hn
    | none =>
      rw [hn] at hl
      have hran := ran_of_missing ht hl
      have hcalls : Calls interpreter line [] := by
        intro mark
        have hmarked := hw mark
        rw [named?_watched, hn] at hmarked
        rw [ran_of_missing ht hmarked, hran]
        rfl
      exact .unrecognized hcalls (congrArg Outcome.result hran)
  · rw [hl]
    have hran := ran_of_fault ht hl
    have hcalls : Calls interpreter line [] := by
      intro mark
      rw [ran_of_fault ht (hw mark), hran]
      rfl
    exact .faulty hcalls (congrArg Outcome.result hran)

/-! ### The last stage -/

/-- The last stage is executed as it is run. -/
theorem endsAs_lastStage (hne : lastStage text ≠ []) :
    EndsAs interpreter (lastStage text) (ran interpreter (lastStage text)) := by
  obtain ⟨hstrip, hsingle⟩ := stage_plain (List.getLast_mem (stages_ne_nil text))
  have htrim : trimmed (some (lastStage text)) = lastStage text := hstrip
  have hline : runLine interpreter.registry interpreter.context (lastStage text) =
      runStage interpreter.registry interpreter.context (lastStage text) :=
    if_neg (Bool.eq_false_iff.mp hsingle)
  have hres := execute_timed interpreter (some (lastStage text)) (htrim.symm ▸ hne)
  have hst := execute_state interpreter (some (lastStage text)) (htrim.symm ▸ hne)
  rw [htrim, hline] at hres hst
  exact ⟨hres, hst⟩

/-- **The completer and the interpreter agree on the command**: the one that is read is the first
token of the last stage, or empty if that is blank. The flags that are offered are those of the
command whose handler that stage runs when it is executed. -/
theorem command_agrees (hq : '"' ∉ text) (ho : ¬ overlapping <:+: text) :
    (lastStage text = [] ∧ (Typing.read text).command = [] ∨
      ∃ args, tokenize (lastStage text) = (Typing.read text).command :: args) ∧
    ∀ interpreter, (Typing.read text).part = .flag →
      EndsAs interpreter (lastStage text) (ran interpreter (lastStage text)) ∧
      Offers interpreter (lastStage text) (wordsFor interpreter (Typing.read text)) := by
  refine ⟨command_eq hq ho, fun interpreter hflag => ?_⟩
  rcases command_eq hq ho with ⟨hblank, -⟩ | ⟨args, ht⟩
  · refine absurd ?_ (words_ne_nil_of_flag hflag)
    rw [← tokenize_lastStage hq ho, hblank]
    rfl
  · have hne : lastStage text ≠ [] := by
      intro hnil
      rw [hnil] at ht
      cases ht
    refine ⟨endsAs_lastStage hne, ?_⟩
    have hwords : wordsFor interpreter (Typing.read text) =
        (flagWords interpreter (Typing.read text).command).map fun flags => (flags, []) := by
      unfold wordsFor
      rw [hflag]
      cases flagWords interpreter (Typing.read text).command <;> rfl
    rw [hwords]
    exact offers_flagWords ht

/-- A session of one command, with an alias for it. -/
def making : Interpreter where
  registry := .ofList [Cmdlet.newItem.complete]
  context := (simulated (.str "C:")).context
  session := { state := { (simulated (.str "C:")).state with
    aliases := [("md", .str "New-ITEM")] } }

/-- After a separator and in other letters, the alias is offered the flags of its command. -/
theorem command_agrees_alias :
    lastStage "Get-Location |  MD\tlogs -It" = "MD\tlogs -It" ∧
    EndsAs making "MD\tlogs -It" (ran making "MD\tlogs -It") ∧
    Offers making "MD\tlogs -It" (.ok (["-ItemType", "-Path"], [])) := by
  have hlast : lastStage "Get-Location |  MD\tlogs -It" = "MD\tlogs -It" := by decide
  have hread : Typing.read "Get-Location |  MD\tlogs -It" = ⟨"MD", "-It", .flag⟩ := by decide
  have hq : '"' ∉ ("Get-Location |  MD\tlogs -It" : Text) := by decide
  have ho : ¬ overlapping <:+: "Get-Location |  MD\tlogs -It" := by
    rw [← includes_iff]
    decide
  have hwords : wordsFor making ⟨"MD", "-It", .flag⟩ = .ok (["-ItemType", "-Path"], []) := by
    rfl
  have hflag : (Typing.read "Get-Location |  MD\tlogs -It").part = .flag := by
    rw [hread]
  obtain ⟨hends, hoffers⟩ := (command_agrees hq ho).2 making hflag
  rw [hlast] at hends hoffers
  rw [hread, hwords] at hoffers
  exact ⟨hlast, hends, hoffers⟩

end CmdletShell.Proofs.Completions.Dispatched
