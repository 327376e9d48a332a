import CmdletShell.Proofs.Builtins.Parameters
import CmdletShell.Proofs.Runs.EmptyStages
import CmdletShell.Proofs.Runs.Failures

/-!
# What a failure is told for

The words for a name that no command has tell that name (`message_notRecognized_inj`), and with the
default commands and simulated items no other failure is told in such words (`Unlike`): a missing
parameter is one of a few, so the words end differently, and the other failures begin differently.

So there are three causes for which a stage fails (`Cause`): it has no token, its first token names
no command, or something else, which its words tell apart from these. A line fails exactly if one of
its stages is reached and fails (`runLine_error_iff`).
-/

namespace CmdletShell.Proofs.Runs.Causes

open CmdletShell.Interpreter CmdletShell.Line CmdletShell.Text
open CmdletShell.Proofs.Builtins.Changes CmdletShell.Proofs.Builtins.Parameters
open CmdletShell.Proofs.Builtins.Reasons CmdletShell.Proofs.Runs.Actions
open CmdletShell.Proofs.Runs.EmptyStages CmdletShell.Proofs.Runs.Failures

variable {failure : Failure} {command : Command} {context : Context} {state : State}
variable {stage line : Text}

/-! ### Messages -/

/-- **The words for a name that no command has tell the name.** -/
theorem message_notRecognized_inj {word other : Text}
    (h : (Failure.notRecognized word).message = (Failure.notRecognized other).message) :
    word = other := by
  have hfront := List.append_cancel_right (List.append_cancel_right h)
  exact List.append_cancel_left hfront

/-- The failure is not told in the words for a name that no command has. -/
def Unlike (failure : Failure) : Prop :=
  ∀ word, report failure ≠ (Failure.notRecognized word).message

theorem getLast?_notRecognized (word : Text) :
    (Failure.notRecognized word).message.getLast? = some '.' :=
  List.getLast?_append_of_ne_nil _ (by decide)

theorem unlike_of_own {key : Text} (h : Own key failure) (ha : Asks failure) : Unlike failure := by
  intro word heq
  rw [report_of_deliberate h.isDeliberate] at heq
  cases h with
  | @missing command parameter detail _ =>
    have hends : ∀ parameter ∈ parameters, parameter ≠ [] ∧ parameter.getLast? ≠ some '.' := by
      decide
    obtain ⟨hne, hlast⟩ := hends parameter ha
    refine hlast ?_
    rw [← getLast?_notRecognized word, ← heq]
    exact (List.getLast?_append_of_ne_nil _ hne).symm
  | notInteger _ _ =>
    have hfirst := congrArg List.head? heq
    cases hfirst
  | boundsReversed _ _ =>
    have hfifth := congrArg (fun message => message[4]?) heq
    cases hfifth

theorem unlike_missingOperation (kind : Value.Kind) (operation : Text) :
    Unlike (.fault (.missingOperation kind operation)) := by
  intro word heq
  have hfirst := congrArg List.head? heq
  cases hfirst

/-! ### Failures of the default commands -/

/-- **With simulated items no default command fails in the words for a name that no command has**,
whatever the state. -/
theorem unlike_of_default {target : Value} {context : Context} {state : State}
    (hl : Registry.default.lookup target = .ok (some command))
    (hi : context.items = .simulated)
    (h : ((command.handler context args).run state).result = .error failure) :
    Unlike failure := by
  obtain ⟨name, -, -, hkeeps⟩ := default_keeping hl
  rcases hkeeps context args state with ⟨reply, hok, -⟩ | ⟨failure', herr, hexcused, -⟩
  · rw [hok] at h
    cases h
  rw [herr] at h
  cases h
  rw [hi] at hexcused
  cases hexcused with
  | deliberate hd =>
    have hown := (default_reasoned hl context args state).1 failure herr hd
    have hasks := default_asking hl context args state failure herr
    exact unlike_of_own hown hasks
  | untyped _ => exact unlike_missingOperation _ _
  | store hs => rcases hs with h | h | h | h <;> cases h

/-! ### Causes -/

/-- **The causes for which a stage fails.** -/
inductive Cause (state : State) (stage : Text) : Failure → Prop
  /-- The stage has no token. -/
  | blank : tokenize stage = [] → Cause state stage (.notRecognized stage)
  /-- Its first token names no command. -/
  | unnamed {word : Text} {args : List Text} : tokenize stage = word :: args →
      Registry.default.lookup (state.resolveAlias word) = .ok none →
      Cause state stage (.notRecognized word)
  /-- Something else, which is told in other words. -/
  | other {failure : Failure} : Unlike failure → Cause state stage failure

/-- **Whenever a stage fails, there is a cause.** -/
theorem runStage_cause (hi : context.items = .simulated)
    (h : ((runStage .default context stage).run state).result = .error failure) :
    Cause state stage failure := by
  have hrun := runStage_run .default context stage state
  generalize (runStage .default context stage).run state = outcome at hrun h
  cases hrun with
  | blank ht =>
    cases h
    exact .blank ht
  | @untyped typed args fault ht hl =>
    cases h
    unfold Registry.lookup at hl
    split at hl <;> cases hl
    exact .other (unlike_missingOperation _ _)
  | unknown ht hl =>
    cases h
    exact .unnamed ht hl
  | @ran typed args command ht hl =>
    obtain ⟨name, -, -, hkeeps⟩ := default_keeping hl
    have hitems := (surroundings_items .default context).trans hi
    rcases hkeeps (surroundings .default context) args state with
      ⟨reply, hok, -⟩ | ⟨failure', herr, -, -⟩
    · rw [settle, hok] at h
      cases h
    · rw [settle, herr] at h
      cases h
      exact .other (unlike_of_default hl hitems herr)

/-! ### Lines -/

section Lines
variable {registry : Registry} {first : Text} {reached : State} {rest : List Text}

/-- **A stage is reached**, in a state, as all stages before it succeed. -/
inductive Reaches (registry : Registry) (context : Context) :
    State → List Text → Text → State → Prop
  /-- The first stage is. -/
  | here {state : State} {stage : Text} {rest : List Text} :
      Reaches registry context state (stage :: rest) stage state
  /-- The first stage succeeds, and the stage is reached from there. -/
  | next {state reached : State} {first stage : Text} {rest : List Text} {reply : Reply} :
      ((runStage registry context first).run state).result = .ok reply →
      Reaches registry context ((runStage registry context first).run state).state rest stage
        reached →
      Reaches registry context state (first :: rest) stage reached

theorem Reaches.mem {stages : List Text} (h : Reaches registry context state stages stage reached) :
    stage ∈ stages := by
  induction h with
  | here => exact List.mem_cons_self
  | next _ _ ih => exact List.mem_cons_of_mem _ ih

/-- A first stage that succeeds leaves it to the others what is reached. -/
theorem reaches_cons_of_ok {reply : Reply}
    (hok : ((runStage registry context first).run state).result = .ok reply)
    (hfails : ((runStage registry context stage).run reached).result = .error failure) :
    Reaches registry context state (first :: rest) stage reached ↔
      Reaches registry context ((runStage registry context first).run state).state rest stage
        reached := by
  refine ⟨fun h => ?_, .next hok⟩
  cases h with
  | here =>
    rw [hok] at hfails
    cases hfails
  | next _ hrest => exact hrest

/-- Stages fail exactly if one of them is reached and fails. -/
theorem runStages_error_iff (count : Nat) : ∀ (stages : List Text) (index : Nat) (output : Value)
    (state : State), ((runStages (runNumbered registry context count) output
      (stages.zipIdx index)).run state).result = .error failure ↔
        ∃ stage reached, Reaches registry context state stages stage reached ∧
          ((runStage registry context stage).run reached).result = .error failure
  | [], _, _, _ => by
    constructor
    · rintro ⟨⟩
    · rintro ⟨_, _, ⟨⟩, -⟩
  | first :: rest, index, output, state => by
    have hresult := runNumbered_result registry context count index first state
    have hstate := runNumbered_state registry context count index first state
    rw [List.zipIdx_cons, runStages]
    cases hr : ((runStage registry context first).run state).result with
    | error broken =>
      rw [bind_error (hresult.trans hr)]
      constructor
      · rintro ⟨⟩
        exact ⟨first, state, .here, hr⟩
      · rintro ⟨stage, reached, hreaches, hfails⟩
        cases hreaches with
        | here =>
          cases hr.symm.trans hfails
          rfl
        | next hok _ =>
          rw [hr] at hok
          cases hok
    | ok reply =>
      rw [bind_ok (hresult.trans hr), after_result, hstate,
        runStages_error_iff count rest (index + 1) reply.output]
      constructor
      · rintro ⟨stage, reached, hreaches, hfails⟩
        exact ⟨stage, reached, .next hr hreaches, hfails⟩
      · rintro ⟨stage, reached, hreaches, hfails⟩
        exact ⟨stage, reached, (reaches_cons_of_ok hr hfails).mp hreaches, hfails⟩

/-- **A line fails exactly if one of its stages is reached and fails**, and with its failure. -/
theorem runLine_error_iff (hl : strip line = line) :
    ((runLine registry context line).run state).result = .error failure ↔
      ∃ stage reached, Reaches registry context state (stages line) stage reached ∧
        ((runStage registry context stage).run reached).result = .error failure := by
  rw [← runStages_error_iff (stages line).length (stages line) 0 (.str []) state,
    (runLine_stages registry context hl state).1]
  cases ((runLine registry context line).run state).result <;> simp [Except.map]

end Lines

end CmdletShell.Proofs.Runs.Causes
