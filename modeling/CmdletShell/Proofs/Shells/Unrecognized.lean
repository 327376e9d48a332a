import CmdletShell.Proofs.Lines.Unquoted
import CmdletShell.Proofs.Runs.Causes
import CmdletShell.Proofs.Runs.Names
import CmdletShell.Proofs.Runs.Writers
import CmdletShell.Proofs.Shells.Sessions

/-!
# The panel for a name that no command has

A line may fail as a word of one of its stages names no command (`FailsAt`). The shell goes by the
words of the failure and by the first token of the whole line: the panel for such a name, with
suggestions for it, is shown exactly if the two agree, and any other failure is shown in the
ordinary panel (`failure_shown`).

The two agree on a line without separators. In a pipeline without quotes they agree on the word
that begins the line, so that the name in a later stage is told as an ordinary failure, and not
otherwise (`second_name_untold`).
-/

namespace CmdletShell.Proofs.Shells.Unrecognized

open CmdletShell.Interpreter CmdletShell.Line CmdletShell.Text CmdletShell.Shell
open CmdletShell.Display
open CmdletShell.Proofs.Lines.Strip CmdletShell.Proofs.Lines.Stages
open CmdletShell.Proofs.Lines.Quoting CmdletShell.Proofs.Lines.Unquoted
open CmdletShell.Proofs.Builtins.Default CmdletShell.Proofs.Runs.Actions
open CmdletShell.Proofs.Runs.Execution CmdletShell.Proofs.Runs.Frame
open CmdletShell.Proofs.Runs.Pipelines CmdletShell.Proofs.Runs.Writers
open CmdletShell.Proofs.Runs.Causes
open CmdletShell.Proofs.Runs.Names (Begins)
open CmdletShell.Proofs.Shells.Steps CmdletShell.Proofs.Shells.Sessions

variable {interpreter : Interpreter} {line word stage : Text} {result : Result} {shell : Shell}
variable {failure : Failure}

/-! ### What is shown -/

/-- The panel for a word that names no command. -/
def notFoundView (shell : Shell) (line word : Text) : View :=
  Display.notFound shell.surroundings.settings line (Failure.notRecognized word).message
    (shell.interpreter.suggest word)

/-- The ordinary panel for a failure. -/
def failureView (shell : Shell) (line : Text) (result : Result) : View :=
  Display.failure shell.surroundings.settings line (failureMessage result)

/-- The shell shows the view for the result of a line. -/
def Shows (shell : Shell) (line : Text) (result : Result) (view : View) : Prop :=
  outcome (displayResult line result) shell = outcome (display view) shell

/-- What is shown is decided by the word that is taken for the unknown one. -/
theorem shows_failure (hf : result.success = false) : Shows shell line result
    (match unknownWord? line result with
      | some word => Display.notFound shell.surroundings.settings line (result.error.getD [])
          (shell.interpreter.suggest word)
      | none => failureView shell line result) := by
  have hsettings : outcome Shell.settings shell = (.ok shell.surroundings.settings, shell) := rfl
  have hview : Display.result shell.surroundings.settings line result =
      failureView shell line result := by
    unfold Display.result
    rw [hf]
    rfl
  unfold Shows displayResult
  rw [outcome_bind_ok hsettings, hf, hview]
  cases unknownWord? line result with
  | some word => exact outcome_bind_ok (outcome_get shell)
  | none => rfl

/-! ### The word that is taken for the unknown one -/

theorem unknownWord?_of_notRecognized
    (hr : result.error = some (Failure.notRecognized word).message) :
    unknownWord? line result = if (tokenize line).head? = some word then some word else none := by
  unfold unknownWord?
  cases tokenize line with
  | nil => rfl
  | cons first rest =>
    dsimp only
    rw [List.head?_cons]
    by_cases h : first = word
    · rw [h, if_pos hr, if_pos rfl]
    · have hwords : result.error ≠ some (Failure.notRecognized first).message := fun he =>
        h (message_notRecognized_inj (Option.some.inj (he.symm.trans hr)))
      rw [if_neg hwords, if_neg fun he => h (Option.some.inj he)]

theorem unknownWord?_eq_none (h : ∀ word ∈ tokenize line,
    result.error ≠ some (Failure.notRecognized word).message) :
    unknownWord? line result = none := by
  unfold unknownWord?
  split
  · rfl
  · next first rest ht =>
    rw [ht] at h
    exact if_neg (h first List.mem_cons_self)

/-- A stage without tokens is none of the tokens of a line: it is empty or has a quote. -/
theorem not_mem_tokenize_of_blank (hs : strip stage = stage) (ht : tokenize stage = []) :
    stage ∉ tokenize line := by
  intro hmem
  obtain ⟨hne, hquote⟩ := isToken_of_mem_tokenize hmem
  rw [tokenize_eq_words hquote] at ht
  rw [← hs, strip_of_words_eq_nil ht] at hne
  exact hne rfl

/-! ### Lines that fail at a word -/

/-- **The line fails at a word**: a stage that begins with it is reached, and it names no command
there. -/
inductive FailsAt (interpreter : Interpreter) (line word : Text) : Prop
  | intro {stage : Text} {args : List Text} {reached : State} :
      Reaches interpreter.registry interpreter.context interpreter.state (stages line) stage
        reached →
      tokenize stage = word :: args →
      interpreter.registry.lookup (reached.resolveAlias word) = .ok none →
      FailsAt interpreter line word

theorem FailsAt.failed (h : FailsAt interpreter line word) (hl : strip line = line) :
    ((Interpreter.runLine interpreter.registry interpreter.context line).run
      interpreter.state).result = .error (.notRecognized word) := by
  obtain ⟨hreaches, ht, hlookup⟩ := h
  refine (runLine_error_iff hl).mpr ⟨_, _, hreaches, ?_⟩
  rw [runStage_of_tokenize ht, dispatch_none hlookup]

/-- The line fails at the word that begins it if that names no command. -/
theorem failsAt_first {later : List Text} (hs : stages line = stage :: later)
    (ht : (tokenize stage).head? = some word) (hu : interpreter.command? word = .ok none) :
    FailsAt interpreter line word := by
  obtain ⟨args, ht⟩ := List.head?_eq_some_iff.mp ht
  have hreaches : Reaches interpreter.registry interpreter.context interpreter.state (stages line)
      stage interpreter.state := by
    rw [hs]
    exact .here
  exact ⟨hreaches, ht, hu⟩

/-- A line that fails at a word does not succeed. -/
theorem FailsAt.not_success (h : FailsAt interpreter line word) (hl : strip line = line)
    (he : (interpreter.execute (some line)).1 = .ok result) : result.success = false := by
  have hne : trimmed (some line) ≠ [] := by
    intro hblank
    obtain ⟨hreaches, ht, -⟩ := h
    have hmem := hreaches.mem
    have hnil : line = [] := hl.symm.trans hblank
    have hstages : stages [] = [[]] := rfl
    rw [hnil, hstages, List.mem_singleton] at hmem
    rw [hmem] at ht
    cases ht
  have htrim : trimmed (some line) = line := hl
  rw [execute_timed interpreter (some line) hne, htrim, h.failed hl] at he
  exact success_of_conclude_error he

/-! ### Failures -/

/-- A line that fails is told with the words of the failure. -/
theorem exists_failure {result : Result} (hl : strip line = line)
    (he : (interpreter.execute (some line)).1 = .ok result) (hf : result.success = false) :
    ∃ failure, ((Interpreter.runLine interpreter.registry interpreter.context line).run
      interpreter.state).result = .error failure ∧ result.error = some (report failure) := by
  have hne : trimmed (some line) ≠ [] := by
    intro hblank
    obtain ⟨millis, timer, hexecute⟩ := execute_of_blank interpreter (some line) hblank
    rw [hexecute] at he
    cases he
    cases hf
  have htrim : trimmed (some line) = line := hl
  rw [execute_timed interpreter (some line) hne, htrim] at he
  cases hr : ((Interpreter.runLine interpreter.registry interpreter.context line).run
      interpreter.state).result with
  | ok reply =>
    rw [hr] at he
    cases he
    cases hf
  | error failure =>
    rw [hr] at he
    have hi : failure ≠ .fault .interrupted := by
      rintro rfl
      cases he
    rw [conclude_error hi] at he
    cases he
    exact ⟨failure, rfl, rfl⟩

/-- **What the shell shows for a line that fails.** -/
structure Told (interpreter : Interpreter) (line : Text) (result : Result) (shell : Shell) :
    Prop where
  /-- A word that names no command is told as such if it is the first token of the line. -/
  unrecognized : ∀ word, FailsAt interpreter line word → Shows shell line result
    (if (tokenize line).head? = some word then notFoundView shell line word
      else failureView shell line result)
  /-- A failure for any other reason is told as an ordinary one. -/
  ordinary : (∀ word, ¬ FailsAt interpreter line word) →
    Shows shell line result (failureView shell line result)
  /-- Without a separator the word is the first token. -/
  single : isPipeline line = false → ∀ word, FailsAt interpreter line word →
    (tokenize line).head? = some word
  /-- Without quotes it is if it begins the line. -/
  first : '"' ∉ line → ∀ word, FailsAt interpreter line word →
    ((tokenize line).head? = some word ↔ ∃ args rest, Begins line word args rest)

/-- A line that is executed is reported on. -/
theorem exists_result (hr : interpreter.registry = .default)
    (hi : interpreter.context.items = .simulated) (line : Text) :
    ∃ result, (interpreter.execute (some line)).1 = .ok result := by
  refine execute_reports (hr ▸ default_uninterrupted fun fault hs => ?_) (some line)
  rw [hi] at hs
  rcases hs with h | h | h | h <;> cases h

/-- A failure for which no word is to blame is not told in the words for the first token. -/
theorem unknownWord?_of_blameless (hr : interpreter.registry = .default)
    (hi : interpreter.context.items = .simulated) (hl : strip line = line)
    (hfails : ((Interpreter.runLine interpreter.registry interpreter.context line).run
      interpreter.state).result = .error failure)
    (herr : result.error = some (report failure))
    (hnone : ∀ word, ¬ FailsAt interpreter line word) : unknownWord? line result = none := by
  obtain ⟨stage, reached, hreaches, hstage⟩ := (runLine_error_iff hl).mp hfails
  rw [hr] at hstage
  have hcause := runStage_cause hi hstage
  cases hcause with
  | blank ht =>
    refine unknownWord?_eq_none fun word hword heq => ?_
    obtain rfl := message_notRecognized_inj (Option.some.inj (herr.symm.trans heq))
    exact not_mem_tokenize_of_blank (stage_plain hreaches.mem).1 ht hword
  | unnamed ht hlookup =>
    rw [← hr] at hlookup
    exact absurd ⟨hreaches, ht, hlookup⟩ (hnone _)
  | other hunlike =>
    exact unknownWord?_eq_none fun word _ heq =>
      hunlike word (Option.some.inj (herr.symm.trans heq))

/-- What the shell shows for a line that has failed. -/
theorem told (hr : interpreter.registry = .default)
    (hi : interpreter.context.items = .simulated) (hl : strip line = line)
    (he : (interpreter.execute (some line)).1 = .ok result) (hf : result.success = false)
    (shell : Shell) : Told interpreter line result shell := by
  obtain ⟨failure, hfails, herr⟩ := exists_failure hl he hf
  have hshown := @shows_failure line result shell hf
  refine ⟨fun word hword => ?_, fun hnone => ?_, fun hsingle word hword => ?_,
    fun hq word hword => ?_⟩
  · rw [hword.failed hl] at hfails
    cases hfails
    have hmessage : result.error = some (Failure.notRecognized word).message := herr
    rw [unknownWord?_of_notRecognized hmessage] at hshown
    split_ifs at hshown ⊢
    · rw [hmessage] at hshown
      exact hshown
    · exact hshown
  · rw [unknownWord?_of_blameless hr hi hl hfails herr hnone] at hshown
    exact hshown
  · obtain ⟨hreaches, ht, -⟩ := hword
    have hmem := hreaches.mem
    rw [stages_of_single hsingle, hl, List.mem_singleton] at hmem
    rw [← hmem, ht, List.head?_cons]
  · obtain ⟨stage, later, hs⟩ := List.exists_cons_of_ne_nil (stages_ne_nil line)
    rw [head?_tokenize hq hl hs, List.head?_eq_some_iff]
    constructor
    · rintro ⟨args, ht⟩
      exact ⟨args, later, stage, by rw [hl, hs], ht⟩
    · rintro ⟨args, rest, other, hother, ht⟩
      rw [hl, hs] at hother
      obtain ⟨rfl, -⟩ := List.cons.inj hother
      exact ⟨args, ht⟩

/-- **The panel for a name that no command has is shown** exactly if the name that a stage fails at
is the first token of the whole line. -/
theorem failure_shown (hr : interpreter.registry = .default)
    (hi : interpreter.context.items = .simulated) (text : Text) :
    ∃ result, (interpreter.execute (some (strip text))).1 = .ok result ∧
      (∀ word, FailsAt interpreter (strip text) word → result.success = false) ∧
      (result.success = false → ∀ shell, Told interpreter (strip text) result shell) := by
  have hl : strip (strip text) = strip text := strip_strip text
  obtain ⟨result, he⟩ := exists_result hr hi (strip text)
  exact ⟨result, he, fun word hword => hword.not_success hl he,
    fun hf shell => told hr hi hl he hf shell⟩

/-- No command of a fresh session has this name, in which two letters are swapped. -/
theorem unnamed_misspelt (home : Text) : (fresh home).command? "Get-Locatoin" = .ok none := by
  have halias : (fresh home).state.resolveAlias "Get-Locatoin" = .str "Get-Locatoin" := rfl
  rw [Interpreter.command?, halias]
  exact lookup_default_eq_none (by decide +kernel)

/-- A misspelt name in front of a separator is told as such. -/
theorem failure_shown_first :
    (fresh "C:").registry = .default ∧ (fresh "C:").context.items = .simulated ∧
    ∃ result, ((fresh "C:").execute (some "Get-Locatoin | Clear-Host")).1 = .ok result ∧
      ∀ shell, Shows shell "Get-Locatoin | Clear-Host" result
        (notFoundView shell "Get-Locatoin | Clear-Host" "Get-Locatoin") := by
  have hline : strip "Get-Locatoin | Clear-Host" = "Get-Locatoin | Clear-Host" := by decide
  have hstages : stages "Get-Locatoin | Clear-Host" = ["Get-Locatoin", "Clear-Host"] := by decide
  have hword : FailsAt (fresh "C:") "Get-Locatoin | Clear-Host" "Get-Locatoin" :=
    failsAt_first hstages (by decide) (unnamed_misspelt "C:")
  obtain ⟨result, he, hfails, htold⟩ :=
    @failure_shown (fresh "C:") rfl rfl "Get-Locatoin | Clear-Host"
  rw [hline] at he hfails htold
  have hfailed := hfails _ hword
  exact ⟨rfl, rfl, result, he, fun shell => (htold hfailed shell).unrecognized _ hword⟩

/-! ### The two panels -/

theorem body_frame (style : PanelStyle) (body : Body) (title : Label) (fit : Bool) :
    (style.frame body title fit).body = body := by
  unfold PanelStyle.frame
  dsimp only
  split <;> split <;> rfl

/-- A panel is made in a style that there is, and has the body that it is made for. -/
theorem exists_fitted {settings : Settings} {style : Text}
    (hs : (settings.panelStyle (.str style)).isOk = true) (body : Body) (title : Label) :
    ∃ panel, fitted settings body title style = .ok panel ∧ panel.body = body := by
  obtain ⟨drawn, hdrawn⟩ := isOk_iff.mp hs
  have heq : fitted settings body title style =
      settings.panelStyle (.str style) >>= fun drawn => .ok (drawn.frame body title true) := rfl
  refine ⟨drawn.frame body title true, ?_, body_frame drawn body title true⟩
  rw [heq, hdrawn]
  rfl

/-- Two panels that look alike on the screen have one body. -/
theorem body_eq_of_display {panel other : Panel}
    (h : outcome (display (panelView (.ok panel))) shell =
      outcome (display (panelView (.ok other))) shell) : panel.body = other.body := by
  have hprinted : shell.printed ++ [.panel panel] = shell.printed ++ [.panel other] :=
    congrArg (fun after => after.2.printed) h
  cases List.append_cancel_left hprinted
  rfl

/-- **Of the two panels only one is shown** where the settings have a style for them. -/
theorem not_shows_both
    (hs : (shell.surroundings.settings.panelStyle (.str "error")).isOk = true)
    (hf : Shows shell line result (failureView shell line result)) :
    ¬ Shows shell line result (notFoundView shell line word) := by
  intro hn
  have hboth := hf.symm.trans hn
  unfold failureView notFoundView Display.failure Display.notFound at hboth
  obtain ⟨panel, hpanel, hbody⟩ := exists_fitted hs
    (.tree (failureTree line (failureMessage result))) (failureTitle line)
  obtain ⟨other, hother, hbody'⟩ := exists_fitted hs
    (.tree (notFoundTree line (Failure.notRecognized word).message
      (shell.interpreter.suggest word))) (failureTitle line)
  rw [hpanel, hother] at hboth
  have htrees := hbody.symm.trans ((body_eq_of_display hboth).trans hbody')
  have htop := (Tree.node.inj (Body.tree.inj htrees)).1
  have hlabels : ("[bold red]Error[/bold red]" : Text) ≠
      "[bold red]Command Not Found[/bold red]" := by decide
  exact hlabels (Label.markup.inj htop)

/-- A line whose second name no command has. -/
def misspelt : Text := "Get-Location | Get-Locatoin"

/-- **The name in a later stage is told as an ordinary failure**, without suggestions for it. -/
theorem second_name_untold :
    FailsAt (fresh "C:\\Users\\me") misspelt "Get-Locatoin" ∧
    ∃ result, ((fresh "C:\\Users\\me").execute (some misspelt)).1 = .ok result ∧
      Shows (startedIn {}) misspelt result (failureView (startedIn {}) misspelt result) ∧
      ¬ Shows (startedIn {}) misspelt result
        (notFoundView (startedIn {}) misspelt "Get-Locatoin") := by
  have hline : strip misspelt = misspelt := by decide
  have hstages : stages misspelt = ["Get-Location", "Get-Locatoin"] := by decide
  have htokens : tokenize "Get-Locatoin" = ["Get-Locatoin"] := by decide
  have hcalled : calledKey (fresh "C:\\Users\\me").state "Get-Location" =
      some ("get-location" : Text) := by decide
  have hc : Cmdlet.getLocation ∈ Cmdlet.builtins.flatMap (·.2) := by
    simp [Cmdlet.builtins, Cmdlet.locationCommands]
  have hfirst : (runStage .default (fresh "C:\\Users\\me").context "Get-Location").run
      (fresh "C:\\Users\\me").state = ⟨.ok { output := .str "C:\\Users\\me" },
        (fresh "C:\\Users\\me").state, []⟩ := by
    rw [runStage_builtin hc rfl hcalled]
    rfl
  have hword : FailsAt (fresh "C:\\Users\\me") misspelt "Get-Locatoin" := by
    have hreaches : Reaches .default (fresh "C:\\Users\\me").context (fresh "C:\\Users\\me").state
        (stages misspelt) "Get-Locatoin" (fresh "C:\\Users\\me").state := by
      have hok := congrArg Outcome.result hfirst
      have hstate := congrArg Outcome.state hfirst
      rw [hstages]
      refine .next hok ?_
      rw [hstate]
      exact .here
    exact ⟨hreaches, htokens, unnamed_misspelt _⟩
  have hother : (tokenize misspelt).head? ≠ some ("Get-Locatoin" : Text) := by decide
  have hr : (fresh "C:\\Users\\me").registry = .default := rfl
  have hi : (fresh "C:\\Users\\me").context.items = .simulated := rfl
  obtain ⟨result, he⟩ := exists_result hr hi misspelt
  have hfailed := hword.not_success hline he
  have hshown := (told hr hi hline he hfailed (startedIn {})).unrecognized "Get-Locatoin" hword
  rw [if_neg hother] at hshown
  exact ⟨hword, result, he, hshown, not_shows_both (by decide) hshown⟩

end CmdletShell.Proofs.Shells.Unrecognized
