import CmdletShell.Proofs.Builtins.Default
import CmdletShell.Proofs.Lines.Quoting
import CmdletShell.Proofs.Runs.Execution

/-!
# Output of quoted texts

A line that asks `Write-Output` for texts, each in quotes, puts them out as they are, whatever white
space, bars and dashes they have, unless one of them includes the separator of stages: quotes do not
protect it, and the line is cut there (`execute_output`, `execute_output_cut`).

On the way from the line to the output, trimming leaves the line as it is since it begins with a
letter and ends with a letter or a quote; a separator has no quote, so it would have to lie in one
of the texts; and the tokens of the line are the word and the texts.
-/

namespace CmdletShell.Proofs.Runs.Output

open CmdletShell.Interpreter CmdletShell.Line CmdletShell.Text
open CmdletShell.Proofs.Lines.Strip CmdletShell.Proofs.Lines.Stages CmdletShell.Proofs.Lines.Quoting
open CmdletShell.Proofs.Builtins.Handlers CmdletShell.Proofs.Builtins.Default
open CmdletShell.Proofs.Runs.Actions CmdletShell.Proofs.Runs.Execution

/-- Texts as arguments: each in quotes, after a space. -/
def quotedArgs (texts : List Text) : Text := texts.flatMap fun text => ' ' :: '"' :: (text ++ ['"'])

/-- The word that asks for output. -/
def outputWord : Text := "Write-Output"

/-- The line that asks for the output of texts. -/
def outputLine (texts : List Text) : Text := outputWord ++ quotedArgs texts

theorem quotedArgs_cons (text : Text) (texts : List Text) :
    quotedArgs (text :: texts) = ' ' :: '"' :: (text ++ '"' :: quotedArgs texts) := by
  rw [quotedArgs, List.flatMap_cons, List.cons_append, List.cons_append, List.append_assoc]
  rfl

theorem written_quotedArgs : ∀ (texts : List Text) {token spelling : Text},
    Spelled token spelling → Written (token :: texts) (spelling ++ quotedArgs texts)
  | [], token, spelling, h => by
    rw [quotedArgs, List.flatMap_nil, List.append_nil]
    exact Written.last h
  | text :: texts, token, spelling, h => by
    have ih := written_quotedArgs texts (@Spelled.quoted text)
    rw [List.cons_append, List.append_assoc, List.singleton_append] at ih
    rw [quotedArgs_cons]
    exact Written.item h isBlank_space ih

/-! ### The line -/

theorem isPipeline_quotedArgs : ∀ texts : List Text,
    isPipeline (quotedArgs texts) = texts.any isPipeline
  | [] => rfl
  | text :: texts => by
    have hq : '"' ∉ pipe := by decide
    have hs : isPipeline [' '] = false := by decide
    have hl : quotedArgs (text :: texts) = [' '] ++ '"' :: (text ++ '"' :: quotedArgs texts) :=
      quotedArgs_cons text texts
    rw [hl, isPipeline_append_cons hq, isPipeline_append_cons hq, isPipeline_quotedArgs texts, hs,
      Bool.false_or, List.any_cons]

/-- A separator in the line lies in one of the texts. -/
theorem isPipeline_outputLine (texts : List Text) :
    isPipeline (outputLine texts) = texts.any isPipeline := by
  cases texts with
  | nil => decide
  | cons text texts =>
    have hq : '"' ∉ pipe := by decide
    have hw : isPipeline (outputWord ++ [' ']) = false := by decide
    have hl : outputLine (text :: texts) =
        (outputWord ++ [' ']) ++ '"' :: (text ++ '"' :: quotedArgs texts) := by
      rw [outputLine, quotedArgs_cons, List.append_assoc, List.singleton_append]
    rw [hl, isPipeline_append_cons hq, isPipeline_append_cons hq, isPipeline_quotedArgs, hw,
      Bool.false_or, List.any_cons]

theorem getLast?_outputLine (texts : List Text) :
    (outputLine texts).getLast? = some 't' ∨ (outputLine texts).getLast? = some '"' := by
  rcases List.eq_nil_or_concat' texts with rfl | ⟨texts, text, rfl⟩
  · exact Or.inl (by decide)
  · refine Or.inr ?_
    have hl : outputLine (texts ++ [text]) =
        (outputLine texts ++ ' ' :: '"' :: text) ++ ['"'] := by
      simp [outputLine, quotedArgs]
    rw [hl, List.getLast?_concat]

theorem strip_outputLine (texts : List Text) : strip (outputLine texts) = outputLine texts := by
  refine trim_eq_self ⟨fun c hc => ?_, fun c hc => ?_⟩
  · have hw : outputWord.head? = some 'W' := by decide
    rw [outputLine, List.head?_append, hw, Option.some_or] at hc
    cases hc
    decide
  · rcases getLast?_outputLine texts with hl | hl <;> rw [hl] at hc <;> cases hc <;> decide

theorem tokenize_outputLine {texts : List Text} (h : ∀ text ∈ texts, IsToken text) :
    tokenize (outputLine texts) = outputWord :: texts := by
  have hw : Spelled outputWord outputWord := Spelled.bare_of_any (by decide)
  refine tokenize_of_written (written_quotedArgs texts hw) fun text ht => ?_
  rcases List.mem_cons.mp ht with rfl | ht
  · decide
  · exact h text ht

/-! ### Its execution -/

/-- `Write-Output` means the built-in command. -/
def MeansOutput (state : State) : Prop :=
  ∃ name, state.resolveAlias outputWord = .str name ∧ lower name = "write-output"

/-- The line for texts succeeds, and puts them out with a space between two of them. -/
def PutsOut (interpreter : Interpreter) (texts : List Text) : Prop :=
  ∃ result, (interpreter.execute (some (outputLine texts))).1 = .ok result ∧
    result.success = true ∧ result.output = .str (joinWith [' '] texts)

theorem runStage_outputLine {context : Context} {state : State} {texts : List Text}
    (hm : MeansOutput state) (ht : ∀ text ∈ texts, IsToken text) :
    ((runStage .default context (outputLine texts)).run state).result =
      .ok (Reply.text (joinWith [' '] texts)) := by
  obtain ⟨name, hname, hlower⟩ := hm
  have hl : Registry.default.lookup (state.resolveAlias outputWord) =
      .ok (some Cmdlet.writeOutput.complete) := by
    rw [hname]
    exact lookup_default (by simp [Cmdlet.builtins, Cmdlet.systemCommands]) hlower
  have hrun :
      (Cmdlet.writeOutput.complete.handler (surroundings .default context) texts).run state =
        ⟨.ok (.reply (Reply.text (joinWith [' '] texts))), state, []⟩ :=
    reading_run (fun _ _ args => .ok (Reply.text (joinWith [' '] args)))
      (surroundings .default context) texts state
  rw [runStage_of_tokenize (tokenize_outputLine ht), dispatch_some hl, hrun]
  rfl

/-- **Quotes protect what is put out**, but not from a separator, which cuts the line. -/
theorem execute_output (interpreter : Interpreter) (texts : List Text)
    (hr : interpreter.registry = .default) (hm : MeansOutput interpreter.state)
    (ht : ∀ text ∈ texts, IsToken text) :
    (isPipeline (strip (outputLine texts)) = true ↔ ∃ text ∈ texts, isPipeline text = true) ∧
    ((∀ text ∈ texts, isPipeline text = false) → PutsOut interpreter texts) := by
  rw [strip_outputLine, isPipeline_outputLine]
  refine ⟨List.any_eq_true, fun hs => ?_⟩
  have htrim : trimmed (some (outputLine texts)) = outputLine texts := strip_outputLine texts
  have hne : outputLine texts ≠ [] := by
    have hw : outputWord ≠ [] := by decide
    exact List.append_ne_nil_of_left_ne_nil hw _
  have hsingle : isPipeline (outputLine texts) = false := by
    rw [isPipeline_outputLine, List.any_eq_false]
    exact fun text hmem => by rw [hs text hmem]; exact Bool.false_ne_true
  obtain ⟨⟨millis, hres⟩, -⟩ := execute_single interpreter (some (outputLine texts))
    (by rw [htrim]; exact hne) (by rw [htrim]; exact hsingle)
  rw [htrim, hr, runStage_outputLine hm ht] at hres
  exact ⟨_, hres, rfl, rfl⟩

theorem simulated_meansOutput (location : Value) : MeansOutput (simulated location).state :=
  ⟨outputWord, rfl, by decide⟩

/-- Texts with bars, white space and dashes, but without a separator. -/
def harmless : List Text := ["a|b |", " -x ", "-"]

/-- Bars that no space stands around on both sides are protected. -/
theorem execute_output_harmless :
    (simulated (.str "C:")).registry = .default ∧ MeansOutput (simulated (.str "C:")).state ∧
    (∀ text ∈ harmless, IsToken text) ∧ (∀ text ∈ harmless, isPipeline text = false) ∧
    PutsOut (simulated (.str "C:")) harmless :=
  have hm := simulated_meansOutput (.str "C:")
  have ht : ∀ text ∈ harmless, IsToken text := by decide
  have hs : ∀ text ∈ harmless, isPipeline text = false := by decide
  ⟨rfl, hm, ht, hs, (execute_output (simulated (.str "C:")) harmless rfl hm ht).2 hs⟩

/-- A text with a separator. -/
def cutText : Text := "a | b"

/-- A separator in quotes cuts the line: what comes after it is taken for a command. -/
theorem execute_output_cut :
    (simulated (.str "C:")).registry = .default ∧ MeansOutput (simulated (.str "C:")).state ∧
    (∀ text ∈ [cutText], IsToken text) ∧ ¬ PutsOut (simulated (.str "C:")) [cutText] := by
  refine ⟨rfl, simulated_meansOutput _, by decide, ?_⟩
  rintro ⟨result, hok, hs, -⟩
  have hfails : (((simulated (.str "C:")).execute (some (outputLine [cutText]))).1.map
    (·.success)).toOption = some false := by decide +kernel
  rw [hok] at hfails
  have hsuccess : result.success = false := Option.some.inj hfails
  rw [hs] at hsuccess
  cases hsuccess

end CmdletShell.Proofs.Runs.Output
