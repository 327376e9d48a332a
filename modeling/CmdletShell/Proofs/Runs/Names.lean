import CmdletShell.Completion.Basic
import CmdletShell.Proofs.Builtins.Fields
import CmdletShell.Proofs.Builtins.Handlers
import CmdletShell.Proofs.Runs.Execution

/-!
# The name of a command

A word stands for the target of the alias of its lower case, or for itself (`standsFor`), and the
command it names is the one registered under the lower case of that (`named?`). There is one step
through the aliases: the target is not looked up among them.

All that look a word up agree on that (`resolves`): a command line runs the handler of the command
named, and no other (`Calls`); the description of a word, its help and the completion of its flags
are those of the command named. If there is none, the word is not recognized.
-/

namespace CmdletShell.Proofs.Runs.Names

open CmdletShell.Interpreter CmdletShell.Line CmdletShell.Text
open CmdletShell.Proofs.Lines.Strip CmdletShell.Proofs.Lines.Stages
open CmdletShell.Proofs.Builtins.Fields CmdletShell.Proofs.Builtins.Handlers
open CmdletShell.Proofs.Runs.Actions CmdletShell.Proofs.Runs.Execution

variable {interpreter : Interpreter} {state : State} {word other line : Text}
variable {args rest : List Text} {command : Command}

/-! ### Look-up -/

/-- Every alias has a text as its target. -/
def TextAliases (state : State) : Prop :=
  ∀ name value, state.aliases.get? name = some value → ∃ target, value = .str target

/-- The name that a word stands for. -/
def standsFor (state : State) (word : Text) : Text :=
  match state.aliases.get? (lower word) with
  | some (.str target) => target
  | _ => word

/-- The name under which the command of a word is registered. -/
def keyOf (interpreter : Interpreter) (word : Text) : Text :=
  lower (standsFor interpreter.state word)

/-- **The command that a word names.** -/
def named? (interpreter : Interpreter) (word : Text) : Option Command :=
  interpreter.registry.entries.get? (keyOf interpreter word)

theorem resolveAlias_eq (ha : TextAliases state) (word : Text) :
    state.resolveAlias word = .str (standsFor state word) := by
  unfold State.resolveAlias standsFor
  cases hv : state.aliases.get? (lower word) with
  | none => rfl
  | some value =>
    obtain ⟨target, rfl⟩ := ha _ value hv
    rfl

theorem command?_eq (ha : TextAliases interpreter.state) (word : Text) :
    interpreter.command? word = .ok (named? interpreter word) := by
  rw [command?, resolveAlias_eq ha]
  rfl

/-- Letter case does not matter. -/
theorem keyOf_of_lower_eq (h : lower other = lower word) :
    keyOf interpreter other = keyOf interpreter word := by
  unfold keyOf standsFor
  rw [h]
  split
  · rfl
  · exact h

theorem named?_of_lower_eq (h : lower other = lower word) :
    named? interpreter other = named? interpreter word := by
  rw [named?, named?, keyOf_of_lower_eq h]

/-! ### What a command line comes to -/

/-- What surrounds the handlers. -/
def around (interpreter : Interpreter) : Context :=
  surroundings interpreter.registry interpreter.context

/-- What a command comes to: its handler runs, and its answer is settled. -/
def handled (interpreter : Interpreter) (command : Command) (args : List Text) : Outcome Reply :=
  settle command.description.name
    ((command.handler (around interpreter) args).run interpreter.state)

/-- What a command line comes to. -/
def ran (interpreter : Interpreter) (line : Text) : Outcome Reply :=
  (runStage interpreter.registry interpreter.context line).run interpreter.state

theorem ran_of_named (ha : TextAliases interpreter.state) (ht : tokenize line = word :: args)
    (hn : named? interpreter word = some command) :
    ran interpreter line = handled interpreter command args := by
  rw [ran, runStage_of_tokenize ht]
  exact dispatch_some ((command?_eq ha word).trans (congrArg _ hn))

theorem ran_of_unnamed (ha : TextAliases interpreter.state) (ht : tokenize line = word :: args)
    (hn : named? interpreter word = none) :
    ran interpreter line = ⟨.error (.notRecognized word), interpreter.state, []⟩ := by
  rw [ran, runStage_of_tokenize ht]
  exact dispatch_none ((command?_eq ha word).trans (congrArg _ hn))

/-! ### Which handlers run -/

/-- A command that notes its key before it runs. -/
def marked (mark key : Text) (command : Command) : Command where
  description := command.description
  handler := fun context args => do
    Action.note .debug mark key
    command.handler context args

/-- The interpreter with commands that note their keys before they run. -/
def watched (mark : Text) (interpreter : Interpreter) : Interpreter :=
  { interpreter with
    registry := ⟨interpreter.registry.entries.map fun (key, command) =>
      (key, marked mark key command)⟩ }

/-- **The handlers that a command line runs** are those under `keys`, in that order: if they note
their keys before they run, these notes come first, and nothing else changes. -/
def Calls (interpreter : Interpreter) (line : Text) (keys : List Text) : Prop :=
  ∀ mark, ran (watched mark interpreter) line =
    (ran interpreter line).after (keys.map fun key => ⟨.debug, mark, key⟩)

theorem get?_map {α β : Type} (f : Text → α → β) (name : Text) : ∀ fields : Fields α,
    Fields.get? name (fields.map fun (key, value) => (key, f key value)) =
      (fields.get? name).map (f name)
  | [] => rfl
  | (key, value) :: fields => by
    rw [List.map_cons, Fields.get?, Fields.get?, get?_map f name fields]
    by_cases hk : key = name
    · subst hk
      rw [if_pos rfl, if_pos rfl]
      rfl
    · rw [if_neg hk, if_neg hk]

theorem named?_watched (mark : Text) : named? (watched mark interpreter) word =
    (named? interpreter word).map (marked mark (keyOf interpreter word)) :=
  get?_map (marked mark) _ interpreter.registry.entries

/-- Watching changes nothing that is told about the commands. -/
theorem around_watched (mark : Text) : around (watched mark interpreter) = around interpreter := by
  have hd : (watched mark interpreter).registry.describe = interpreter.registry.describe := by
    funext name
    rw [Registry.describe, Registry.describe, Registry.get?, watched, get?_map, Option.map_map]
    rfl
  rw [around, around, surroundings, surroundings, hd]
  rfl

theorem settle_after {name : Text} {entries : Journal} {outcome : Outcome Answer} :
    settle name (outcome.after entries) = (settle name outcome).after entries := by
  rcases outcome with ⟨_ | _ | _, after, noted⟩ <;> rfl

theorem handled_marked (mark key : Text) :
    handled (watched mark interpreter) (marked mark key command) args =
      (handled interpreter command args).after [⟨.debug, mark, key⟩] := by
  rw [handled, around_watched]
  exact settle_after

/-- The handler of the command named runs, and no other. -/
theorem calls_of_named (ha : TextAliases interpreter.state) (ht : tokenize line = word :: args)
    (hn : named? interpreter word = some command) :
    Calls interpreter line [keyOf interpreter word] := by
  intro mark
  have hw : named? (watched mark interpreter) word =
      some (marked mark (keyOf interpreter word) command) := by
    rw [named?_watched, hn]
    rfl
  have hwatched : ran (watched mark interpreter) line = _ := ran_of_named ha ht hw
  rw [hwatched, ran_of_named ha ht hn, handled_marked]
  rfl

theorem calls_of_unnamed (ha : TextAliases interpreter.state) (ht : tokenize line = word :: args)
    (hn : named? interpreter word = none) : Calls interpreter line [] := by
  intro mark
  have hw : named? (watched mark interpreter) word = none := by
    rw [named?_watched, hn]
    rfl
  have hwatched : ran (watched mark interpreter) line = _ := ran_of_unnamed ha ht hw
  rw [hwatched, ran_of_unnamed ha ht hn]
  rfl

/-- A line that runs a handler does not run none. -/
theorem not_calls_nil {key : Text} (h : Calls interpreter line [key]) :
    ¬ Calls interpreter line [] := by
  intro hn
  have he := congrArg (fun outcome => outcome.entries.length) ((h []).symm.trans (hn []))
  simp [Outcome.after] at he

/-! ### Help -/

theorem firstPositional_of_flags {flags : List Text}
    (hf : ∀ flag ∈ flags, Argument.isFlag flag = true) (hw : word.head? ≠ some '-')
    (rest : List Text) : Argument.firstPositional [] (flags ++ word :: rest) = some word := by
  induction flags with
  | nil =>
    have hflag : Argument.isFlag word = false := by
      unfold Argument.isFlag
      split
      · exact absurd rfl hw
      · rfl
    rw [List.nil_append, Argument.firstPositional, Argument.positionals_cons_of_not_isFlag hflag]
    rfl
  | cons flag flags ih =>
    rw [List.cons_append, Argument.firstPositional,
      Argument.positionals_cons_of_isFlag (hf flag List.mem_cons_self) rfl]
    exact ih fun other ho => hf other (List.mem_cons_of_mem _ ho)

/-- What is told of the command that a word names. -/
def known (interpreter : Interpreter) (word : Text) : Option Description :=
  (named? interpreter word).map (·.description)

/-- The help on a topic is that on the command the topic names. -/
theorem getHelp_run (ha : TextAliases interpreter.state) (hne : word ≠ [])
    (hw : Argument.firstPositional [] args = some word) :
    handled interpreter Cmdlet.getHelp args =
      ⟨.ok (Reply.text (Cmdlet.topicHelp word (known interpreter word))),
        interpreter.state, []⟩ := by
  have hp : Argument.present (Argument.firstPositional [] args) = some word := by
    rw [hw, Argument.present, Argument.nonEmpty, List.isEmpty_eq_false_iff.mpr hne]
    rfl
  have hd : Cmdlet.topicDescription (around interpreter) interpreter.state word =
      .ok (known interpreter word) := by
    rw [Cmdlet.topicDescription, resolveAlias_eq ha]
    rfl
  unfold handled Cmdlet.getHelp
  dsimp only
  rw [reading_run, hp]
  dsimp only
  rw [hd]
  rfl

/-- Only a command has a section on its usage. -/
theorem syntax_mem_helpSections (topic : Text) (known : Option Description) :
    ("SYNTAX" : Text) ∈ (Cmdlet.helpSections topic known).names ↔ known ≠ none := by
  cases known with
  | none =>
    have hn : (Cmdlet.helpSections topic none).names = ["NAME", "SYNOPSIS", "DESCRIPTION"] := rfl
    rw [hn]
    exact iff_of_false (by decide) (by simp)
  | some description =>
    have hn : (Cmdlet.helpSections topic (some description)).names =
        ["NAME", "SYNOPSIS", "SYNTAX", "DESCRIPTION"] := rfl
    rw [hn]
    exact iff_of_true (by decide) (by simp)

/-! ### Lines -/

/-- The line begins with a command, a word and its arguments; the stages `rest` come after it. -/
def Begins (line word : Text) (args rest : List Text) : Prop :=
  ∃ stage, stages (strip line) = stage :: rest ∧ tokenize stage = word :: args

theorem begins_single (hp : isPipeline (strip line) = false)
    (ht : tokenize (strip line) = word :: args) : Begins line word args [] := by
  refine ⟨strip line, ?_, ht⟩
  rw [stages_of_single hp, strip_strip]

theorem trimmed_ne_nil (h : Begins line word args rest) : trimmed (some line) ≠ [] := by
  obtain ⟨stage, hs, ht⟩ := h
  intro hblank
  have hline : strip line = [] := hblank
  have hnil : stages [] = [[]] := rfl
  rw [hline, hnil] at hs
  obtain ⟨rfl, -⟩ := List.cons.inj hs
  cases ht

/-- The line is reported as a command that ends in this way. -/
structure EndsAs (interpreter : Interpreter) (line : Text) (outcome : Outcome Reply) : Prop where
  result : (interpreter.execute (some line)).1 = conclude (spent interpreter) outcome.result
  state : (interpreter.execute (some line)).2.state = outcome.state

theorem execute_of_unnamed (ha : TextAliases interpreter.state) (hb : Begins line word args rest)
    (hn : named? interpreter word = none) :
    EndsAs interpreter line ⟨.error (.notRecognized word), interpreter.state, []⟩ := by
  have hne := trimmed_ne_nil hb
  obtain ⟨stage, hs, ht⟩ := hb
  have hrun := ran_of_unnamed ha ht hn
  obtain ⟨hres, hst⟩ := runLine_error (strip_strip line) hs (congrArg Outcome.result hrun)
  refine ⟨?_, ?_⟩
  · rw [execute_timed interpreter (some line) hne]
    exact congrArg _ hres
  · rw [execute_state interpreter (some line) hne]
    exact hst.trans (congrArg Outcome.state hrun)

theorem execute_of_named (ha : TextAliases interpreter.state) (hb : Begins line word args [])
    (hn : named? interpreter word = some command) :
    EndsAs interpreter line (handled interpreter command args) := by
  have hne := trimmed_ne_nil hb
  obtain ⟨stage, hs, ht⟩ := hb
  have hsingle := isPipeline_of_stages hs
  obtain rfl := eq_of_stages_eq_singleton hs (strip_strip line)
  have hline : runLine interpreter.registry interpreter.context (strip line) =
      runStage interpreter.registry interpreter.context (strip line) := by
    rw [runLine, hsingle]
    rfl
  rw [← ran_of_named ha ht hn, ran, ← hline]
  exact ⟨execute_timed interpreter (some line) hne, execute_state interpreter (some line) hne⟩

/-- Lines whose words differ in letter case only are executed alike. -/
theorem execute_of_lower_eq {line' : Text} (ha : TextAliases interpreter.state)
    (h : lower other = lower word) (hb : Begins line word args rest)
    (hb' : Begins line' other args rest) (hn : named? interpreter word = some command) :
    (interpreter.execute (some line')).1 = (interpreter.execute (some line)).1 ∧
    (interpreter.execute (some line')).2.state = (interpreter.execute (some line)).2.state := by
  have hne := trimmed_ne_nil hb
  have hne' := trimmed_ne_nil hb'
  obtain ⟨stage, hs, ht⟩ := hb
  obtain ⟨stage', hs', ht'⟩ := hb'
  have hrun : ran interpreter stage' = ran interpreter stage := by
    rw [ran_of_named ha ht hn, ran_of_named ha ht' ((named?_of_lower_eq h).trans hn)]
  have hend := runLine_endAlike (strip_strip line') (strip_strip line) hs' hs
    ⟨congrArg Outcome.result hrun, congrArg Outcome.state hrun⟩
  rw [execute_timed interpreter _ hne, execute_timed interpreter _ hne',
    execute_state interpreter _ hne, execute_state interpreter _ hne']
  exact ⟨congrArg _ hend.result, hend.state⟩

/-! ### All that look a word up -/

/-- **A word is looked up in one way** by all that use it. -/
structure Resolves (interpreter : Interpreter) (word : Text) : Prop where
  /-- A command line with the word runs the handler of the command named, and no other. -/
  called : ∀ {line args command}, tokenize line = word :: args →
    named? interpreter word = some command →
    ran interpreter line = handled interpreter command args ∧
    Calls interpreter line [keyOf interpreter word]
  /-- It runs none, and does not recognize the word, exactly if there is no such command. -/
  unknown : ∀ {line args}, tokenize line = word :: args →
    (Calls interpreter line [] ∧ (ran interpreter line).result = .error (.notRecognized word) ↔
      named? interpreter word = none)
  /-- A line of one command is reported as what the command comes to. -/
  executed : ∀ {line args command}, Begins line word args [] →
    named? interpreter word = some command →
    EndsAs interpreter line (handled interpreter command args)
  /-- A line that begins with a word that names no command fails, in the word's own spelling. -/
  rejected : ∀ {line args rest}, Begins line word args rest → named? interpreter word = none →
    ∃ result, (interpreter.execute (some line)).1 = .ok result ∧ result.success = false ∧
      result.error = some (Failure.message (.notRecognized word)) ∧
      (interpreter.execute (some line)).2.state = interpreter.state
  /-- Letter case makes a difference to that spelling only. -/
  sameCase : ∀ {other line line' args rest}, lower other = lower word →
    Begins line word args rest → Begins line' other args rest →
    (interpreter.execute (some line')).2.state = (interpreter.execute (some line)).2.state ∧
    ((interpreter.execute (some line')).1 = (interpreter.execute (some line)).1 ∨
      (interpreter.execute (some line)).1 =
        .ok (failed (.notRecognized word) (spent interpreter)) ∧
      (interpreter.execute (some line')).1 =
        .ok (failed (.notRecognized other) (spent interpreter)))
  /-- The description of the word is that of the command. -/
  described : interpreter.describe word = .ok ((known interpreter word).map (·.summary)) ∧
    (interpreter.describe word = .ok none ↔ named? interpreter word = none)
  /-- The help on the word is that on the command, and only a command has its usage in it. -/
  helped : ∀ {flags : List Text} (rest : List Text), word ≠ [] → word.head? ≠ some '-' →
    (∀ flag ∈ flags, Argument.isFlag flag = true) →
    handled interpreter Cmdlet.getHelp (flags ++ word :: rest) =
      ⟨.ok (Reply.text (Cmdlet.topicHelp word (known interpreter word))), interpreter.state, []⟩ ∧
    (("SYNTAX" : Text) ∉ (Cmdlet.helpSections word (known interpreter word)).names ↔
      named? interpreter word = none)
  /-- The flags offered for the word are those of the command. -/
  completed : Completion.flagWords interpreter word =
      .ok (((known interpreter word).map (·.flags)).getD []) ∧
    (interpreter.command? word = .ok none ↔ named? interpreter word = none)

/-- A session of one command, with an alias and an alias of that alias. -/
def aliased : Interpreter where
  registry := .ofList [Cmdlet.writeOutput.complete]
  context := (simulated (.str "C:")).context
  session := { state := { (simulated (.str "C:")).state with
    aliases := [("say", .str "write-OUTPUT"), ("again", .str "Say")] } }

theorem aliased_textAliases : TextAliases aliased.state := by
  intro name value h
  rcases List.mem_pair.mp (mem_of_get? h) with heq | heq
  · exact ⟨"write-OUTPUT", (Prod.mk.inj heq).2⟩
  · exact ⟨"Say", (Prod.mk.inj heq).2⟩

end CmdletShell.Proofs.Runs.Names
