import CmdletShell.Proofs.Builtins.Default
import CmdletShell.Proofs.Files.Loading
import CmdletShell.Proofs.Shells.Views

/-!
# Sessions are folds of `execute`

An answer of the terminal that is neither blank nor a session command is put on record
(`recorded?`), and a session runs the lines on record, one after another, and nothing else. It stops
at the first answer that ends it (`endsSession`), asks for nothing more, and shows the farewell
once, last.

The induction is along the answers before that one. What one turn does is `turn_spec`; what carries
it along is `Ran`, which says which lines have run so far.

* `calm`: in a session nothing that is shown raises, and no session command does.
* `run_folds`: what a calm session comes to.
-/

namespace CmdletShell.Proofs.Shells.Sessions

open CmdletShell.Shell CmdletShell.Display CmdletShell.Text
open CmdletShell.Proofs.Lines.Strip
open CmdletShell.Proofs.Builtins.Handlers CmdletShell.Proofs.Builtins.Changes
open CmdletShell.Proofs.Builtins.Default
open CmdletShell.Proofs.Runs.Execution CmdletShell.Proofs.Runs.Pipelines
open CmdletShell.Proofs.Shells.Steps CmdletShell.Proofs.Shells.Views

/-- The words that end a session. -/
def exitWords : List Text := ["exit", "quit"]

/-- The words that the session takes for itself. -/
def sessionWords : List Text :=
  ["exit", "quit", "/help", "/config_reload", "config_reload", "/cleanup_memory", "history"]

/-- Whether an answer ends the session. -/
def endsSession : Typed → Bool
  | .line text => exitWords.contains (lower (strip text))
  | .ended => true
  | .interrupt => false

/-- The line that an answer has the interpreter run: none if it is blank or a session command. -/
def recorded? : Typed → Option Text
  | .line text =>
    if (strip text).isEmpty || sessionWords.contains (lower (strip text)) then none
    else some (strip text)
  | _ => none

/-! ### Which lines are session commands -/

section Special
variable {line : Text} {special : Special}

theorem read?_eq_none :
    Special.read? line = none ↔ sessionWords.contains (lower (strip line)) = false := by
  have hw : sessionWords = Special.all.flatMap Special.words := by decide
  unfold Special.read?
  rw [List.find?_eq_none, hw]
  simp only [List.contains_eq_mem, decide_eq_true_eq, decide_eq_false_iff_not, List.mem_flatMap,
    not_exists, not_and]

theorem recorded?_of_isEmpty {text : Text} (h : (strip text).isEmpty = true) :
    recorded? (.line text) = none := by
  simp [recorded?, h]

theorem recorded?_of_special {text : Text} (h : Special.read? (strip text) = some special) :
    recorded? (.line text) = none := by
  have hw : sessionWords.contains (lower (strip text)) = true := by
    by_contra hne
    rw [← strip_strip text, Bool.not_eq_true, ← read?_eq_none, h] at hne
    cases hne
  unfold recorded?
  dsimp only
  rw [hw, Bool.or_true, if_pos rfl]

theorem recorded?_of_none {text : Text} (hb : (strip text).isEmpty = false)
    (h : Special.read? (strip text) = none) : recorded? (.line text) = some (strip text) := by
  rw [read?_eq_none, strip_strip] at h
  unfold recorded?
  dsimp only
  rw [hb, h, Bool.or_false, if_neg (by simp)]

theorem read?_eq_exit : Special.read? line = some .exit ↔
    exitWords.contains (lower (strip line)) = true := by
  constructor
  · intro h
    have hw := List.find?_some h
    exact hw
  · intro h
    exact List.find?_cons_of_pos h

theorem endsSession_line (text : Text) :
    endsSession (.line text) = true ↔ Special.read? (strip text) = some .exit := by
  rw [read?_eq_exit, strip_strip]
  rfl

end Special

/-! ### Calm sessions -/

/-- Whether nothing is raised that an answer has the shell show, be it by a session command. -/
def calmAnswer (typed : Typed) (shell : Shell) : Bool :=
  match typed with
  | .line text =>
    (strip text).isEmpty ||
      match Special.read? (strip text) with
      | some special => succeeds (runSpecial special) shell
      | none =>
        match shell.interpreter.execute (some (strip text)) with
        | (.ok result, interpreter) =>
          succeeds (displayResult (strip text) result)
            { shell with history := shell.history ++ [strip text], interpreter }
        | _ => true
  | _ => true

/-- Whether nothing is raised that a turn shows, the prompt included. -/
def calmTurn (typed : Typed) (shell : Shell) : Bool :=
  succeeds ask shell && calmAnswer typed (outcome ask shell).2

/-- Whether all turns are calm up to the one that ends the session. -/
def calmTurns : List Typed → Shell → Bool
  | [], _ => true
  | typed :: rest, shell =>
    calmTurn typed shell && (endsSession typed || calmTurns rest (outcome (turn typed) shell).2)

/-- **A calm session**: the greeting is shown, the terminal is set up, and all turns are calm. -/
def calm (script : List Typed) (shell : Shell) : Bool :=
  succeeds greet shell && succeeds opening (outcome greet shell).2 &&
    calmTurns script (outcome opening (outcome greet shell).2).2

/-! ### One turn -/

/-- A shell after the farewell. -/
def bid (shell : Shell) : Shell := { shell with printed := shell.printed ++ [farewell] }

section Turn
variable {shell after : Shell} {line : Text} {result : Result} {interpreter : Interpreter}

/-- Asking, unless it breaks, asks for one line; all that comes before is aside. -/
theorem runs_ask : Runs [] 1 ask := by
  have hprompt : Aside prompt := aside_bind aside_get fun _ => aside_attempt _
  refine runs_bind aside_settings fun _ => runs_bind (aside_attempt _) fun _ =>
    runs_bind hprompt fun _ => runs_bind aside_get fun _ => ?_
  rintro before value after ⟨⟩
  exact ⟨rfl, rfl, rfl, by simp, by simp [asked, asksLine], [], by simp, by simp⟩

theorem outcome_runLine (h : shell.interpreter.execute (some line) = (.ok result, interpreter)) :
    outcome (runLine line) shell = outcome (displayResult line result)
      { shell with history := shell.history ++ [line], interpreter } := by
  unfold runLine
  rw [outcome_bind_ok (outcome_modify _ shell), outcome_bind_ok (outcome_get _)]
  dsimp only
  rw [h]
  rfl

/-- A line goes into the history and has been executed. -/
theorem ran_execute (h : shell.interpreter.execute (some line) = (.ok result, interpreter)) :
    Ran [line] 0 shell { shell with history := shell.history ++ [line], interpreter } := by
  have hi : interpreter = (shell.interpreter.execute (some line)).2 := by rw [h]
  subst hi
  exact ⟨execute_registry _ _, execute_context _ _, rfl, rfl, rfl, [], by simp, by simp⟩

/-- A session command other than the one to leave lets the session go on. -/
theorem runSpecial_done {special : Special} {handled : Handled} (hs : special ≠ .exit)
    (h : outcome (runSpecial special) shell = (.ok handled, after)) : handled = .done := by
  cases special with
  | exit => exact absurd rfl hs
  | help | reload | cleanUp =>
    obtain ⟨_, _, -, hd⟩ := exists_of_bind h
    cases hd
    rfl
  | history =>
    obtain ⟨_, _, -, h⟩ := exists_of_bind h
    obtain ⟨_, _, -, h⟩ := exists_of_bind h
    obtain ⟨_, _, -, hd⟩ := exists_of_bind h
    cases hd
    rfl

theorem handleLine_blank {text : Text} (hb : (strip text).isEmpty = true) (shell : Shell) :
    outcome (handleLine text) shell = (.ok none, shell) := by
  unfold handleLine
  dsimp only
  rw [if_pos hb]
  rfl

theorem handleLine_special {text : Text} {special : Special} {handled : Handled}
    (hb : (strip text).isEmpty = false) (hr : Special.read? (strip text) = some special)
    (h : outcome (runSpecial special) shell = (.ok handled, after)) :
    outcome (handleLine text) shell = (.ok (some handled), after) := by
  have hs : outcome (handleSpecial (strip text)) shell = (.ok (some handled), after) := by
    unfold handleSpecial
    rw [hr]
    exact outcome_bind_ok h
  unfold handleLine
  dsimp only
  rw [if_neg (by simp [hb]), outcome_bind_ok hs]
  rfl

theorem handleLine_recorded {text : Text} (hb : (strip text).isEmpty = false)
    (hr : Special.read? (strip text) = none)
    (h : outcome (runLine (strip text)) shell = (.ok (), after)) :
    outcome (handleLine text) shell = (.ok none, after) := by
  have hs : outcome (handleSpecial (strip text)) shell = (.ok none, shell) := by
    unfold handleSpecial
    rw [hr]
    rfl
  unfold handleLine
  dsimp only
  rw [if_neg (by simp [hb]), outcome_bind_ok hs]
  exact outcome_bind_ok h

/-- **What a line of the terminal comes to.** -/
theorem handleLine_spec (hq : Uninterrupted shell.interpreter.registry shell.interpreter.context)
    (text : Text) (hcalm : calmAnswer (.line text) shell = true) :
    ∃ handled after, outcome (handleLine text) shell = (.ok handled, after) ∧
      Ran (recorded? (.line text)).toList 0 shell after ∧
      (handled = some .exit ↔ endsSession (.line text) = true) := by
  rw [endsSession_line]
  unfold calmAnswer at hcalm
  dsimp only at hcalm
  cases hb : (strip text).isEmpty with
  | true =>
    have he : strip text = [] := by simpa using hb
    refine ⟨none, shell, handleLine_blank hb shell, ?_, ?_⟩
    · rw [recorded?_of_isEmpty hb]
      exact Idle.refl shell
    · rw [he]
      decide
  | false =>
    rw [hb, Bool.false_or] at hcalm
    cases hr : Special.read? (strip text) with
    | some special =>
      rw [hr] at hcalm
      obtain ⟨handled, after, ho⟩ := exists_of_succeeds hcalm
      refine ⟨some handled, after, handleLine_special hb hr ho, ?_, ?_⟩
      · have hidle := aside_runSpecial special shell
        rw [ho] at hidle
        rw [recorded?_of_special hr]
        exact hidle
      · by_cases hs : special = .exit
        · subst hs
          cases ho
          simp
        · rw [runSpecial_done hs ho]
          simpa using hs
    | none =>
      obtain ⟨result, he⟩ := execute_reports hq (some (strip text))
      have hex : shell.interpreter.execute (some (strip text)) =
          (.ok result, (shell.interpreter.execute (some (strip text))).2) := by rw [← he]
      rw [hr, hex] at hcalm
      obtain ⟨_, after, ho⟩ := exists_of_succeeds hcalm
      refine ⟨none, after, handleLine_recorded hb hr ((outcome_runLine hex).trans ho), ?_, by simp⟩
      have hran := (ran_execute hex).trans (aside_displayResult (strip text) result _)
      rw [ho] at hran
      rw [recorded?_of_none hb hr]
      exact hran

/-- **What an answer comes to.** -/
theorem answered_spec (hq : Uninterrupted shell.interpreter.registry shell.interpreter.context)
    (typed : Typed) (hcalm : calmAnswer typed shell = true) :
    ∃ after, Ran (recorded? typed).toList 0 shell after ∧
      outcome (answered typed) shell =
        if endsSession typed then (.ok false, bid after) else (.ok true, after) := by
  cases typed with
  | ended => exact ⟨shell, Idle.refl shell, rfl⟩
  | interrupt =>
    have ha : Aside (display (Display.interrupt interruptMessage)) :=
      aside_display farewell_not_mem_interrupt
    exact ⟨_, ha shell, rfl⟩
  | line text =>
    obtain ⟨handled, after, ho, hran, hexit⟩ := handleLine_spec hq text hcalm
    refine ⟨after, hran, ?_⟩
    unfold answered
    rw [outcome_bind_ok ho]
    by_cases he : handled = some .exit
    · rw [if_pos (hexit.mp he), he]
      rfl
    · rw [if_neg (mt hexit.mpr he)]
      split
      · exact absurd rfl he
      · rfl

/-- **What a turn comes to.** -/
theorem turn_spec (hq : Uninterrupted shell.interpreter.registry shell.interpreter.context)
    (typed : Typed) (hcalm : calmTurn typed shell = true) :
    ∃ after, Ran (recorded? typed).toList 1 shell after ∧
      outcome (turn typed) shell =
        if endsSession typed then (.ok false, bid after) else (.ok true, after) := by
  unfold calmTurn at hcalm
  obtain ⟨hask, hanswer⟩ := Bool.and_eq_true_iff.mp hcalm
  obtain ⟨_, opened, ho⟩ := exists_of_succeeds hask
  have hran := runs_ask shell () opened ho
  rw [ho] at hanswer
  obtain ⟨after, hran', ha⟩ :=
    answered_spec (by rw [hran.registry, hran.context]; exact hq) typed hanswer
  refine ⟨after, hran.trans hran', ?_⟩
  have hturn : outcome (do ask; answered typed) shell =
      if endsSession typed then (.ok false, bid after) else (.ok true, after) :=
    (outcome_bind_ok ho).trans ha
  unfold turn
  rw [outcome_tryCatch, hturn]
  split_ifs <;> rfl

end Turn

/-! ### Whole sessions -/

section Run
variable {shell : Shell} {last : Typed}

theorem turns_cons (typed : Typed) (rest : List Typed) :
    turns (typed :: rest) = turn typed >>= fun goesOn =>
      if goesOn then turns rest else pure () := rfl

/-- **The turns up to the one that ends the session**, whatever answers would follow. -/
theorem turns_spec (hl : endsSession last = true) (rest : List Typed) : ∀ (before : List Typed)
    {shell : Shell}, Uninterrupted shell.interpreter.registry shell.interpreter.context →
      (∀ typed ∈ before, endsSession typed = false) →
      calmTurns (before ++ last :: rest) shell = true →
      ∃ after, Ran (before.filterMap recorded? ++ (recorded? last).toList) (before.length + 1)
          shell after ∧
        ∀ other, outcome (turns (before ++ last :: other)) shell = (.ok (), bid after)
  | [], shell, hq, _, hcalm => by
    rw [List.nil_append, calmTurns, Bool.and_eq_true_iff] at hcalm
    obtain ⟨after, hran, ho⟩ := turn_spec hq last hcalm.1
    rw [if_pos hl] at ho
    refine ⟨after, by simpa using hran, fun other => ?_⟩
    rw [List.nil_append, turns_cons, outcome_bind_ok ho]
    rfl
  | typed :: before, shell, hq, hb, hcalm => by
    have htyped : endsSession typed = false := hb typed (by simp)
    rw [List.cons_append, calmTurns, htyped, Bool.false_or, Bool.and_eq_true_iff] at hcalm
    obtain ⟨middle, hran, ho⟩ := turn_spec hq typed hcalm.1
    rw [if_neg (by simp [htyped])] at ho
    have hrest := hcalm.2
    rw [ho] at hrest
    obtain ⟨after, hran', hturns⟩ := turns_spec hl rest before
      (by rw [hran.registry, hran.context]; exact hq) (fun t ht => hb t (by simp [ht])) hrest
    refine ⟨after, ?_, fun other => ?_⟩
    · have hall := hran.trans hran'
      have hcount : 1 + (before.length + 1) = (typed :: before).length + 1 := by
        rw [List.length_cons]
        omega
      have hlines : (recorded? typed).toList ++
          (before.filterMap recorded? ++ (recorded? last).toList) =
          (typed :: before).filterMap recorded? ++ (recorded? last).toList := by
        cases hrec : recorded? typed <;> simp [hrec]
      rwa [hcount, hlines] at hall
    · rw [List.cons_append, turns_cons, outcome_bind_ok ho]
      exact hturns other

/-- The answer that ends the session is not put on record. -/
theorem recorded?_of_ends (h : endsSession last = true) : recorded? last = none := by
  cases last with
  | ended | interrupt => rfl
  | line text => exact recorded?_of_special ((endsSession_line text).mp h)

/-- A shell has run no line when it starts, and has nothing on record. -/
theorem start_spec {surroundings : Surroundings} {interpreter : Interpreter}
    (h : Shell.start surroundings interpreter = (.ok (), shell)) :
    Ran [] 0 { interpreter, surroundings } shell := by
  have ha := aside_renewLexer { interpreter, surroundings }
  have ho : outcome renewLexer { interpreter, surroundings } = (.ok (), shell) := h
  rw [ho] at ha
  exact ha

/-- **A calm session is the fold of `execute` over its history.** It handles the answers up to the
first that ends it, whatever would follow, and asks for no more; it shows the farewell once, last;
its history is what these answers put on record; and it leaves the state that the interpreter
reaches by executing the history. -/
theorem run_folds (surroundings : Surroundings) (interpreter : Interpreter) (shell : Shell)
    (script : List Typed) (hr : interpreter.registry = .default)
    (hi : ∀ fault, StoreFails interpreter.context.items fault → fault ≠ .interrupted)
    (hs : Shell.start surroundings interpreter = (.ok (), shell))
    (hcalm : calm script shell = true) (he : ∃ typed ∈ script, endsSession typed = true) :
    ∃ before last after final shown,
      script = before ++ last :: after ∧
      (∀ typed ∈ before, endsSession typed = false) ∧ endsSession last = true ∧
      (∀ other, outcome (Shell.run (before ++ last :: other)) shell = (.ok (), final)) ∧
      asked final = before.length + 1 ∧
      final.printed = shown ++ [farewell] ∧ farewell ∉ shown ∧
      final.history = before.filterMap recorded? ∧
      final.interpreter.state =
        (executeAll interpreter (final.history.map some)).state := by
  obtain ⟨last, hfind⟩ := Option.isSome_iff_exists.mp (List.find?_isSome.mpr he)
  obtain ⟨hl, before, after, hscript, hb⟩ := List.find?_eq_some_iff_append.mp hfind
  have hb' : ∀ typed ∈ before, endsSession typed = false := fun typed ht => by
    simpa using hb typed ht
  rw [calm, Bool.and_eq_true_iff, Bool.and_eq_true_iff] at hcalm
  obtain ⟨⟨hgreet, hopen⟩, hturns⟩ := hcalm
  obtain ⟨_, greeted, hg⟩ := exists_of_succeeds hgreet
  rw [hg] at hopen hturns
  obtain ⟨_, opened, ho⟩ := exists_of_succeeds hopen
  rw [ho, hscript] at hturns
  have hgreeted := aside_greet shell
  rw [hg] at hgreeted
  have hopened := aside_opening greeted
  rw [ho] at hopened
  have hran := (start_spec hs).trans (hgreeted.trans hopened)
  have hq : Uninterrupted opened.interpreter.registry opened.interpreter.context := by
    rw [hran.registry, hran.context, hr]
    exact default_uninterrupted hi
  obtain ⟨final, hfinal, hrun⟩ := turns_spec hl after before hq hb' hturns
  have hall := hran.trans hfinal
  rw [recorded?_of_ends hl] at hall
  obtain ⟨shown, hshown, hno⟩ := hall.printed
  have hhistory : final.history = before.filterMap recorded? := by simpa using hall.history
  refine ⟨before, last, after, bid final, shown, hscript, hb', hl, fun other => ?_, ?_, ?_, hno,
    hhistory, ?_⟩
  · unfold Shell.run
    rw [outcome_bind_ok hg, outcome_bind_ok ho]
    exact hrun other
  · have hasked := hall.asked
    simpa [asked, bid] using hasked
  · simpa [bid] using hshown
  · have hstate := hall.state
    simpa [bid, hhistory] using hstate

/-- Settings whose prompt has no styles of its own. -/
def bare : Settings
  | .promptStyles | .completionStyles => .obj []
  | setting => Settings.initial setting

/-- Simulated devices and these stored files. -/
def surroundedBy (storage : Storage) : Surroundings where
  settings := bare
  storage := storage
  site := Files.Loading.scratch
  context := (fresh "C:\\Users\\me").context

/-- A shell that has just been started there. -/
def startedIn (storage : Storage) : Shell :=
  (Shell.start (surroundedBy storage) (fresh "C:\\Users\\me")).2

/-- A session with all kinds of answers: a line that fails after it has changed the location, and
two that end the session. -/
def mixed : List Typed :=
  [.line "  ", .line "cd .. | nope ", .interrupt, .line "/HELP", .line " Quit", .line "pwd", .ended]

/-- Blank lines, session commands and an interrupt are passed over, and the answers after the first
that ends the session are not read. -/
theorem run_folds_mixed :
    (fresh "C:\\Users\\me").registry = .default ∧
    (∀ fault, StoreFails (fresh "C:\\Users\\me").context.items fault → fault ≠ .interrupted) ∧
    Shell.start (surroundedBy {}) (fresh "C:\\Users\\me") = (.ok (), startedIn {}) ∧
    calm mixed (startedIn {}) = true ∧ (∃ typed ∈ mixed, endsSession typed = true) ∧
    ∃ before last after final shown,
      mixed = before ++ last :: after ∧
      (∀ typed ∈ before, endsSession typed = false) ∧ endsSession last = true ∧
      (∀ other, outcome (Shell.run (before ++ last :: other)) (startedIn {}) = (.ok (), final)) ∧
      asked final = before.length + 1 ∧
      final.printed = shown ++ [farewell] ∧ farewell ∉ shown ∧
      final.history = before.filterMap recorded? ∧
      final.interpreter.state =
        (executeAll (fresh "C:\\Users\\me") (final.history.map some)).state := by
  have hi : ∀ fault, StoreFails (fresh "C:\\Users\\me").context.items fault →
      fault ≠ .interrupted := by
    intro fault h
    rcases h with h | h | h | h <;> cases h
  have hs : Shell.start (surroundedBy {}) (fresh "C:\\Users\\me") = (.ok (), startedIn {}) := rfl
  have hc : calm mixed (startedIn {}) = true := by decide +kernel
  have he : ∃ typed ∈ mixed, endsSession typed = true := ⟨.ended, by decide, rfl⟩
  exact ⟨rfl, hi, hs, hc, he,
    run_folds (surroundedBy {}) (fresh "C:\\Users\\me") (startedIn {}) mixed rfl hi hs hc he⟩

/-- A settings file that is no text breaks the session off when it is loaded again, although
nothing that is shown raises. -/
theorem run_broken_off :
    Shell.start (surroundedBy Files.Loading.damaged) (fresh "C:\\Users\\me") =
      (.ok (), startedIn Files.Loading.damaged) ∧
    (outcome (Shell.run [.line "/config_reload", .line "exit"])
      (startedIn Files.Loading.damaged)).1 = .error .undecodable :=
  ⟨rfl, by rfl⟩

end Run

end CmdletShell.Proofs.Shells.Sessions
