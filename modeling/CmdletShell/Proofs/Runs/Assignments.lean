import CmdletShell.Proofs.Arguments.NameValues
import CmdletShell.Proofs.Lines.Words
import CmdletShell.Proofs.Runs.Writers

/-!
# Assignments on the command line

A line that spells an assignment, with quotes where they are needed, writes the variable and nothing
else (`execute_stores`). So all spellings lead to the same state, however the texts are quoted and
whether they have flags (`execute_spellings`).
-/

namespace CmdletShell.Proofs.Runs.Assignments

open CmdletShell.Interpreter CmdletShell.Line CmdletShell.Text
open CmdletShell.Proofs.Lines.Strip CmdletShell.Proofs.Lines.Quoting
open CmdletShell.Proofs.Lines.Words
open CmdletShell.Proofs.Arguments.NameValues
open CmdletShell.Proofs.Builtins.Fields CmdletShell.Proofs.Runs.Execution
open CmdletShell.Proofs.Runs.Frame CmdletShell.Proofs.Runs.Writers

/-- The word that asks for an assignment. -/
def assignWord : Text := "Set-Variable"

/-- `Set-Variable` means the built-in command. -/
def MeansAssignment (state : State) : Prop :=
  calledKey state assignWord = some ("set-variable" : Text)

/-- The line with the word and further words behind it. -/
def assignLine (words : List Text) : Text := lineOf (assignWord :: words)

/-- **The line stores the value**: it succeeds with no output, writes the variable in its place or
behind the others, and changes nothing else. -/
structure Stores (interpreter : Interpreter) (line name value : Text) : Prop where
  result : ∃ result, (interpreter.execute (some line)).1 = .ok result ∧ result.success = true ∧
    result.output = .str [] ∧ result.error = none
  value_eq : (interpreter.execute (some line)).2.state.valueOf? name = some (.str value)
  binding : Written name (.str value) interpreter.state.bindings
    (interpreter.execute (some line)).2.state.bindings
  state_eq : (interpreter.execute (some line)).2.state = { interpreter.state with
    bindings := interpreter.state.bindings.put name (.str value) }

variable {interpreter : Interpreter} {state : State} {name value : Text} {args words : List Text}

/-! ### The word -/

theorem tokenize_assignWord : tokenize assignWord = [assignWord] := by decide

/-- An alias table without the word leaves it its meaning. -/
theorem meansAssignment_of_get? (h : state.aliases.get? "set-variable" = none) :
    MeansAssignment state := by
  have hlower : lower assignWord = "set-variable" := by decide
  have hword : state.resolveAlias assignWord = .str assignWord := by
    rw [State.resolveAlias, hlower, h]
    rfl
  rw [MeansAssignment, calledKey_of_tokenize tokenize_assignWord hword, hlower]

/-! ### The line -/

/-- **An assignment is stored, however it is spelled** and however its tokens are written. -/
theorem execute_stores (hr : interpreter.registry = .default)
    (hm : MeansAssignment interpreter.state) (hn : IsName name) (hv : IsValue value)
    (h : Spelling name value args) (hw : List.Forall₂ Word args words)
    (hp : isPipeline (assignLine words) = false) :
    Stores interpreter (assignLine words) name value := by
  have hword : Word assignWord assignWord := .bare (forall_iff_any.mpr (by decide))
  have hwords := List.Forall₂.cons hword hw
  have ht : ∀ token ∈ assignWord :: args, IsToken token := List.forall_mem_cons.mpr
    ⟨by decide, isToken_of_spelling hn.toIsToken hv.toIsToken h⟩
  have htrim : trimmed (some (assignLine words)) = assignLine words := strip_line hwords ht
  have htokens : tokenize (assignLine words) = assignWord :: args := tokenize_line hwords ht
  have hne : assignLine words ≠ [] := lineOf_ne_nil (by decide) words
  obtain ⟨⟨millis, hres⟩, hst⟩ := execute_single interpreter (some (assignLine words))
    (by rwa [htrim]) (by rwa [htrim])
  rw [htrim, hr, runStage_setVariable (calledKey_of_word tokenize_assignWord hm htokens), htokens,
    List.tail_cons, assignment_of_spelling hn hv h] at hres hst
  have hwritten := written_put name (.str value) interpreter.state.bindings
  refine ⟨⟨_, hres, rfl, rfl, rfl⟩, ?_, ?_, hst⟩
  · rw [hst]
    exact hwritten.get?_eq
  · rw [hst]
    exact hwritten

/-! ### Spellings in quotes -/

/-- Spellings of which every text is in quotes, as words. -/
def spellings (name value : Text) : List (List Text) :=
  [[enquoted name, enquoted value],
    ["-Name", enquoted name, "-Value", enquoted value],
    ["-Value", enquoted value, "-Name", enquoted name],
    ["-Name", enquoted name, enquoted value],
    [enquoted ("-Name " ++ name), enquoted ("-Value " ++ value)],
    ["-Name:" ++ enquoted name, "-Value:" ++ enquoted value]]

theorem spelling_of_mem (h : words ∈ spellings name value) :
    ∃ args, Spelling name value args ∧ List.Forall₂ Word args words := by
  have hn : Word (dashed .name) "-Name" := .bare (forall_iff_any.mpr (by decide))
  have hv : Word (dashed .value) "-Value" := .bare (forall_iff_any.mpr (by decide))
  have hname : ∀ c ∈ ("-Name:" : Text), isBlank c = false := forall_iff_any.mpr (by decide)
  have hvalue : ∀ c ∈ ("-Value:" : Text), isBlank c = false := forall_iff_any.mpr (by decide)
  have hnc : Word (dashed .name ++ ':' :: name) ("-Name:" ++ enquoted name) := .quoted hname
  have hvc : Word (dashed .value ++ ':' :: value) ("-Value:" ++ enquoted value) := .quoted hvalue
  simp only [spellings, List.mem_cons, List.not_mem_nil, or_false] at h
  rcases h with rfl | rfl | rfl | rfl | rfl | rfl
  · exact ⟨_, .loose, .cons (word_enquoted name) (.cons (word_enquoted value) .nil)⟩
  · exact ⟨_, .both .apart .apart, .cons hn (.cons (word_enquoted name)
      (.cons hv (.cons (word_enquoted value) .nil)))⟩
  · exact ⟨_, .swapped .apart .apart, .cons hv (.cons (word_enquoted value)
      (.cons hn (.cons (word_enquoted name) .nil)))⟩
  · exact ⟨_, .named .apart, .cons hn (.cons (word_enquoted name)
      (.cons (word_enquoted value) .nil))⟩
  · exact ⟨_, .both .space .space, .cons (word_enquoted _) (.cons (word_enquoted _) .nil)⟩
  · exact ⟨_, .both .colon .colon, .cons hnc (.cons hvc .nil)⟩

/-- **All spellings store the same**, and so lead to the same state. -/
theorem execute_spellings (interpreter : Interpreter) (name value : Text)
    (hr : interpreter.registry = .default) (hm : MeansAssignment interpreter.state)
    (hn : IsName name) (hv : IsValue value) :
    ∀ words ∈ spellings name value, isPipeline (assignLine words) = false →
      Stores interpreter (assignLine words) name value := by
  intro words h hp
  obtain ⟨args, hargs, hwords⟩ := spelling_of_mem h
  exact execute_stores hr hm hn hv hargs hwords hp

/-- A name with a colon, and white space at its end. -/
def oddName : Text := ":a "

/-- A value with a bar, a flag and a dollar sign in it. -/
def oddValue : Text := "$|  -Name"

theorem execute_spellings_odd :
    (simulated (.str "C:")).registry = .default ∧ MeansAssignment (simulated (.str "C:")).state ∧
    IsName oddName ∧ IsValue oddValue ∧
    (∀ words ∈ spellings oddName oddValue, isPipeline (assignLine words) = false) ∧
    ∀ words ∈ spellings oddName oddValue,
      Stores (simulated (.str "C:")) (assignLine words) oddName oddValue := by
  have hm : MeansAssignment (simulated (.str "C:")).state :=
    meansAssignment_of_get? (Option.isNone_iff_eq_none.mp (by decide))
  have hn : IsName oddName :=
    { ne_nil := by decide, unquoted := by decide, undashed := by decide, unsigned := by decide,
      unindented := by rintro c ⟨⟩; decide }
  have hv : IsValue oddValue :=
    { ne_nil := by decide, unquoted := by decide, undashed := by decide,
      unindented := by rintro c ⟨⟩; decide }
  have hp : ∀ words ∈ spellings oddName oddValue, isPipeline (assignLine words) = false := by
    decide
  exact ⟨rfl, hm, hn, hv, hp, fun words h =>
    execute_spellings (simulated (.str "C:")) oddName oddValue rfl hm hn hv words h (hp words h)⟩

end CmdletShell.Proofs.Runs.Assignments
