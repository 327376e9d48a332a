import CmdletShell.Proofs.Arguments.NameValues
import CmdletShell.Proofs.Runs.Pwd

/-!
# The variables along a run

The deeds of a session tell its variables: their names in order (`names_after`), and the value of
each but `PWD`, which is the one last written (`valueOf?_after`).

A deed of a line writes a name without a dollar sign at its start, for those are taken off. That a
name is given is seen to before, so a name of dollar signs only is let through, and what is left of
it is empty. There is no other way to a variable without a name (`nameless_iff`).
-/

namespace CmdletShell.Proofs.Runs.Variables

open CmdletShell.Interpreter CmdletShell.Line CmdletShell.Argument CmdletShell.Cmdlet
open CmdletShell.Proofs.Builtins.Fields CmdletShell.Proofs.Arguments.NameValues
open CmdletShell.Proofs.Runs.Execution CmdletShell.Proofs.Runs.Frame CmdletShell.Proofs.Runs.Pwd

variable {interpreter : Interpreter} {state : State} {name : Text} {deed : Deed}
  {deeds : List Deed} {names : List Text}

/-! ### The names -/

/-- The variable that is given a value: a change of location gives one to `PWD`. -/
def target : Deed → Text
  | .moved => "PWD"
  | .wrote name _ => name

/-- The names of the variables after a further deed. -/
def enter (names : List Text) (deed : Deed) : List Text :=
  if target deed ∈ names then names else names ++ [target deed]

theorem tracks_names : Tracks enter fun state names => state.bindings.names = names where
  moved location h := by rw [State.moveTo, names_put, h]; rfl
  wrote name value h := by rw [State.assign, names_put, h]; rfl
  other hb _ h := hb ▸ h

theorem mem_enter : name ∈ enter names deed ↔ name ∈ names ∨ name = target deed := by
  unfold enter
  split_ifs with h
  · constructor
    · exact Or.inl
    · rintro (hn | rfl)
      · exact hn
      · exact h
  · rw [List.mem_append, List.mem_singleton]

theorem mem_foldl_enter :
    name ∈ deeds.foldl enter names ↔ name ∈ names ∨ name ∈ deeds.map target := by
  induction deeds generalizing names with
  | nil => simp
  | cons deed deeds ih =>
    rw [List.foldl_cons, ih, mem_enter, List.map_cons, List.mem_cons, or_assoc]

/-- **The names after events**: those there were, and those of the deeds. -/
theorem names_after (hr : interpreter.registry = .default) (events : List Event) :
    name ∈ (after interpreter events).state.bindings.names ↔
      name ∈ interpreter.state.bindings.names ∨
        name ∈ (history interpreter events).map target := by
  rw [after_tracks tracks_names events hr rfl, mem_foldl_enter]

/-! ### The values -/

/-- The value of a variable that is not `PWD`, after a further deed. -/
def remember (name : Text) (value : Option Value) : Deed → Option Value
  | .moved => value
  | .wrote other written => if other = name then some written else value

theorem tracks_value (hn : name ≠ "PWD") :
    Tracks (remember name) fun state value => state.valueOf? name = value where
  moved location h := by
    rw [State.valueOf?, State.moveTo, Fields.get?_put, if_neg hn]
    exact h
  wrote other written h := by
    rw [State.valueOf?, State.assign, Fields.get?_put]
    dsimp only [remember]
    by_cases ho : name = other
    · rw [if_pos ho, if_pos ho.symm]
    · rw [if_neg ho, if_neg (Ne.symm ho)]
      exact h
  other hb _ h := by
    rw [State.valueOf?, hb]
    exact h

/-- **The value of a variable after events.** -/
theorem valueOf?_after (hr : interpreter.registry = .default) (hn : name ≠ "PWD")
    (events : List Event) : (after interpreter events).state.valueOf? name =
      (history interpreter events).foldl (remember name) (interpreter.state.valueOf? name) :=
  after_tracks (tracks_value hn) events hr rfl

/-- A variable that is not written keeps its value. -/
theorem foldl_remember (h : ∀ value, .wrote name value ∉ deeds) (value : Option Value) :
    deeds.foldl (remember name) value = value := by
  induction deeds with
  | nil => rfl
  | cons deed deeds ih =>
    have hdeed : remember name value deed = value := by
      cases deed with
      | moved => rfl
      | wrote other written =>
        refine if_neg ?_
        rintro rfl
        exact h written List.mem_cons_self
    rw [List.foldl_cons, hdeed]
    exact ih fun written hw => h written (.tail _ hw)

/-! ### Lines -/

/-- Lines are events. -/
theorem after_execute (lines : List (Option Text)) (interpreter : Interpreter) :
    after interpreter (lines.map .execute) = executeAll interpreter lines :=
  List.foldl_map

/-- What stages do is a deed of one of them. -/
theorem exists_of_mem_deeds {context : Context} : ∀ {stages : List Text} {state : State},
    deed ∈ Pwd.deeds .default context state stages → ∃ state stage, deedOf? state stage = some deed
  | stage :: rest, state, h => by
    rw [Pwd.deeds] at h
    split at h
    · rcases List.mem_append.mp h with h | h
      · exact ⟨state, stage, Option.mem_toList.mp h⟩
      · exact exists_of_mem_deeds h
    · cases h

/-- What lines do is a deed of a stage. -/
theorem exists_of_mem_history : ∀ {lines : List (Option Text)} {interpreter : Interpreter},
    interpreter.registry = .default → deed ∈ history interpreter (lines.map .execute) →
    ∃ state stage, deedOf? state stage = some deed
  | [], _, _, h => (List.not_mem_nil h).elim
  | line :: lines, interpreter, hr, h => by
    rw [List.map_cons, history, List.mem_append] at h
    rcases h with h | h
    · rw [Event.deeds, hr] at h
      exact exists_of_mem_deeds h
    · exact exists_of_mem_history ((execute_registry interpreter line).trans hr) h

/-! ### Names that are written -/

/-- What a stage does: it changes the location, or writes what it is given. -/
theorem deedOf?_eq_some {stage : Text} (h : deedOf? state stage = some deed) :
    deed = .moved ∨ ∃ name value, deed = .wrote name (.str value) ∧
      calledKey state stage = some ("set-variable" : Text) ∧
      assignment (tokenize stage).tail = .ok (name, value) := by
  unfold deedOf? at h
  split_ifs at h with hl hv
  · exact Or.inl (Option.some.inj h).symm
  · cases ha : assignment (tokenize stage).tail with
    | error failure => rw [ha] at h; cases h
    | ok pair =>
      rw [ha] at h
      exact Or.inr ⟨pair.1, pair.2, (Option.some.inj h).symm, hv, rfl⟩

/-- **A stage writes what it is given**, without the dollar signs in front of the name. -/
theorem deedOf?_eq_wrote {stage value : Text} :
    deedOf? state stage = some (.wrote name (.str value)) ↔
      calledKey state stage = some ("set-variable" : Text) ∧ ∃ typed, typed ≠ [] ∧
        readNameValue (tokenize stage).tail = .ok (some typed, some value) ∧
        typed.dropWhile (· == '$') = name := by
  rw [← assignment_eq_ok_iff]
  constructor
  · intro h
    rcases deedOf?_eq_some h with heq | ⟨name, value, heq, hv, ha⟩
    · cases heq
    · cases heq
      exact ⟨hv, ha⟩
  · rintro ⟨hv, ha⟩
    have hl : calledKey state stage ≠ some ("set-location" : Text) := by
      rw [hv]
      decide
    rw [deedOf?, if_neg hl, if_pos hv, ha]

/-- What is left of a name begins with no dollar sign. -/
theorem head?_target {stage : Text} (h : deedOf? state stage = some deed) :
    (target deed).head? ≠ some '$' := by
  rcases deedOf?_eq_some h with rfl | ⟨name, value, rfl, -, ha⟩
  · decide
  · obtain ⟨typed, -, -, rfl⟩ := assignment_eq_ok_iff.mp ha
    intro hc
    have hnot := List.head?_dropWhile_not (· == '$') typed
    rw [target] at hc
    rw [hc] at hnot
    exact Bool.noConfusion hnot

/-- A variable without a name is written by an assignment only. -/
theorem mem_targets_nil {lines : List (Option Text)} (hr : interpreter.registry = .default) :
    [] ∈ (history interpreter (lines.map .execute)).map target ↔
      ∃ value, .wrote [] (.str value) ∈ history interpreter (lines.map .execute) := by
  rw [List.mem_map]
  constructor
  · rintro ⟨deed, hd, ht⟩
    obtain ⟨state, stage, hs⟩ := exists_of_mem_history hr hd
    rcases deedOf?_eq_some hs with rfl | ⟨name, value, rfl, -, -⟩
    · cases ht
    · cases ht
      exact ⟨value, hd⟩
  · rintro ⟨value, hd⟩
    exact ⟨_, hd, rfl⟩

/-! ### Variables without a name -/

/-- The variables that a session begins with. -/
def startNames : List Text := ["PWD", "HOME", "PSVersionTable", "ExecutionPolicy", "PROFILE"]

theorem names_of_create {home extraAliases : Value}
    (h : State.create home extraAliases = .ok state) : state.bindings.names = startNames := by
  unfold State.create at h
  cases ha : State.addAliases (State.textFields State.defaultAliases) extraAliases with
  | error fault => rw [ha] at h; cases h
  | ok aliases => rw [ha] at h; cases h; rfl

/-- **A variable without a name comes from a name of dollar signs only.** Whatever lines are
executed, no variable's name begins with a dollar sign, and there is one whose name is empty if and
only if a stage has written it, to which a name was given with nothing behind its dollar signs. -/
theorem nameless_iff (interpreter : Interpreter) (home extraAliases : Value)
    (hr : interpreter.registry = .default)
    (hcreate : State.create home extraAliases = .ok interpreter.state)
    (lines : List (Option Text)) :
    (∀ name ∈ (executeAll interpreter lines).state.bindings.names, name.head? ≠ some '$') ∧
    ([] ∈ (executeAll interpreter lines).state.bindings.names ↔
      ∃ value, .wrote [] (.str value) ∈ history interpreter (lines.map .execute)) ∧
    ∀ state stage value, deedOf? state stage = some (.wrote [] (.str value)) ↔
      calledKey state stage = some ("set-variable" : Text) ∧ ∃ typed, typed ≠ [] ∧
        (∀ c ∈ typed, c = '$') ∧
        readNameValue (tokenize stage).tail = .ok (some typed, some value) := by
  have hnames : ∀ name, name ∈ (executeAll interpreter lines).state.bindings.names ↔
      name ∈ interpreter.state.bindings.names ∨
        name ∈ (history interpreter (lines.map .execute)).map target := by
    intro name
    rw [← after_execute]
    exact names_after hr _
  rw [names_of_create hcreate] at hnames
  refine ⟨fun name h => ?_, ?_, fun state stage value => ?_⟩
  · have hstart : ∀ name ∈ startNames, name.head? ≠ some '$' := by decide
    rcases (hnames name).mp h with h | h
    · exact hstart name h
    · obtain ⟨deed, hd, rfl⟩ := List.mem_map.mp h
      obtain ⟨state, stage, hs⟩ := exists_of_mem_history hr hd
      exact head?_target hs
  · rw [hnames, or_iff_right (by decide), mem_targets_nil hr]
  · have hall : ∀ typed : Text,
        typed.dropWhile (· == '$') = [] ↔ ∀ c ∈ typed, c = '$' := by
      intro typed
      rw [List.dropWhile_eq_nil_iff]
      exact forall₂_congr fun c _ => beq_iff_eq
    rw [deedOf?_eq_wrote]
    refine and_congr_right' (exists_congr fun typed => and_congr_right' ?_)
    rw [hall, and_comm]

/-- A line that assigns to a name of dollar signs. -/
def signed : Option Text := some "Set-Variable $$ a"

theorem mem_signed : [] ∈ (executeAll (fresh "C:") [signed]).state.bindings.names := by
  decide +kernel

theorem nameless_iff_signed :
    (fresh "C:").registry = .default ∧ State.create (.str "C:") .null = .ok (fresh "C:").state ∧
    (∃ value, .wrote [] (.str value) ∈ history (fresh "C:") ([signed].map .execute)) ∧
    [] ∈ (executeAll (fresh "C:") [signed]).state.bindings.names := by
  obtain ⟨-, hnames, hdeed⟩ :=
    nameless_iff (fresh "C:") (.str "C:") .null (fresh_registry "C:") (create_fresh "C:") [signed]
  exact ⟨fresh_registry "C:", create_fresh "C:", hnames.mp mem_signed, mem_signed⟩

/-- So there are lines that lead to a variable without a name. -/
theorem nameless_reached : ¬ ∀ (interpreter : Interpreter) (home extraAliases : Value),
    interpreter.registry = .default → State.create home extraAliases = .ok interpreter.state →
    ∀ lines, ∀ name ∈ (executeAll interpreter lines).state.bindings.names,
      name ≠ [] ∧ name.head? ≠ some '$' := by
  intro h
  have hname := h (fresh "C:") (.str "C:") .null (fresh_registry "C:") (create_fresh "C:") [signed]
    [] mem_signed
  exact hname.1 rfl

end CmdletShell.Proofs.Runs.Variables
