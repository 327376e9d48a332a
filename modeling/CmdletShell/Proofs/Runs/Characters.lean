import CmdletShell.Proofs.Lines.Tokens
import CmdletShell.Proofs.Runs.Homeward

/-!
# The characters of a location along a run

Home, location and the variable `HOME` are made of the characters of the home and of the lines, and
of separators (`MadeOf`). A stage writes nothing to them but a token, the end of one, or where a
change of location leads (`runStage_madeOf`), so a run keeps to these characters
(`executeAll_madeOf`).
-/

namespace CmdletShell.Proofs.Runs.Characters

open CmdletShell.Interpreter CmdletShell.Line CmdletShell.Location CmdletShell.Cmdlet
open CmdletShell.Proofs.Arguments.NameValues CmdletShell.Proofs.Builtins.Changes
open CmdletShell.Proofs.Lines.Stages CmdletShell.Proofs.Lines.Strip CmdletShell.Proofs.Lines.Tokens
open CmdletShell.Proofs.Paths.Drives
open CmdletShell.Proofs.Runs.Execution CmdletShell.Proofs.Runs.Frame CmdletShell.Proofs.Runs.Writers
open CmdletShell.Proofs.Runs.Locations CmdletShell.Proofs.Runs.Homeward

/-- The value is a text of characters that `Q` holds of. -/
abbrev IsTextOf (Q : Char → Prop) : Value → Prop := IsPath fun text => ∀ c ∈ text, Q c

/-- Home, location, and where a change of location without a target leads, which is the variable
`HOME` if there is one, are texts of characters that `Q` holds of. -/
structure MadeOf (Q : Char → Prop) (state : State) : Prop where
  home : IsTextOf Q state.home
  location : IsTextOf Q state.location
  fallback : IsTextOf Q (homeVariable state)

variable {Q : Char → Prop} {context : Context} {state : State} {stage home : Text}
  {interpreter : Interpreter}

/-- A new session has the characters of its home. -/
theorem madeOf_of_atHome (h : AtHome home state) (hh : ∀ c ∈ home, Q c) : MadeOf Q state where
  home := ⟨home, h.home_eq, hh⟩
  location := ⟨home, h.location_eq, hh⟩
  fallback := ⟨home, by rw [homeVariable, h.variable_eq, Option.getD_some], hh⟩

/-! ### Stages -/

theorem isTextOf_locationTarget (h : MadeOf Q state) {args : List Text}
    (ha : ∀ token ∈ args, ∀ c ∈ token, Q c) : IsTextOf Q (locationTarget state args) := by
  cases args with
  | nil => exact h.fallback
  | cons target rest => exact ⟨target, rfl, ha target List.mem_cons_self⟩

theorem madeOf_moveTo (h : MadeOf Q state) {location : Value} (hl : IsTextOf Q location) :
    MadeOf Q (state.moveTo location) where
  home := h.home
  location := hl
  fallback := by
    have hkept : homeVariable (state.moveTo location) = homeVariable state := by
      rw [homeVariable, State.valueOf?, State.moveTo, Fields.get?_put, if_neg (by decide)]
      rfl
    exact hkept ▸ h.fallback

theorem madeOf_assign (h : MadeOf Q state) (name : Text) {value : Text} (hv : ∀ c ∈ value, Q c) :
    MadeOf Q (state.assign name (.str value)) where
  home := h.home
  location := h.location
  fallback := by
    rw [homeVariable, State.valueOf?, State.assign, Fields.get?_put]
    split_ifs
    · exact ⟨value, rfl, hv⟩
    · exact h.fallback

/-- **A stage brings in no character** but its own and the separator. -/
theorem runStage_madeOf (hs : Q separator) (hq : ∀ c ∈ stage, Q c) (h : MadeOf Q state) :
    MadeOf Q ((runStage .default context stage).run state).state := by
  have hargs : ∀ token ∈ (tokenize stage).tail, ∀ c ∈ token, Q c := fun token ht c hc =>
    hq c (subset_of_mem_tokenize (List.mem_of_mem_tail ht) hc)
  by_cases hmove : calledKey state stage = some ("set-location" : Text)
  · obtain ⟨target, htarget, htq⟩ := isTextOf_locationTarget h hargs
    obtain ⟨current, hcurrent, hcq⟩ := h.location
    obtain ⟨home, hhome, hhq⟩ := h.home
    rw [runStage_setLocation hmove, htarget, hcurrent, hhome, follow_str]
    exact madeOf_moveTo h ⟨_, rfl, forall_mem_resolve hs hcq hhq (forall_mem_asPath hs htq)⟩
  by_cases hassign : calledKey state stage = some ("set-variable" : Text)
  · rw [runStage_setVariable hassign]
    cases ha : assignment (tokenize stage).tail with
    | error failure => exact h
    | ok parts =>
      obtain ⟨name, value⟩ := parts
      obtain ⟨token, ht, hsuffix⟩ := isSuffix_of_assignment ha
      exact madeOf_assign h name fun c hc => hargs token ht c (hsuffix.subset hc)
  · have hhome : ((runStage .default context stage).run state).state.home = state.home :=
      (runStage_grown default_keeping stage).home
    have hlocation : ((runStage .default context stage).run state).state.location =
        state.location := runStage_location_eq hmove
    have hbindings : ((runStage .default context stage).run state).state.bindings =
        state.bindings := runStage_bindings_eq hmove hassign
    refine ⟨hhome ▸ h.home, hlocation ▸ h.location, ?_⟩
    rw [homeVariable, State.valueOf?, hbindings, hhome]
    exact h.fallback

/-! ### Runs -/

theorem execute_madeOf (hr : interpreter.registry = .default) (hs : Q separator)
    (h : MadeOf Q interpreter.state) {line : Option Text} (hq : ∀ text ∈ line, ∀ c ∈ text, Q c) :
    MadeOf Q (interpreter.execute line).2.state := by
  have htrim : ∀ c ∈ trimmed line, Q c := by
    cases line with
    | none => exact fun c hc => absurd hc List.not_mem_nil
    | some text => exact fun c hc => hq text rfl c ((strip_isInfix text).subset hc)
  refine (execute_inTurn interpreter line).keeps (fun stage hstage state hstate => ?_) h
  rw [hr]
  exact runStage_madeOf hs (fun c hc => htrim c (subset_of_mem_stages hstage hc)) hstate

/-- **A run brings in no character** but those of its lines and the separator. -/
theorem executeAll_madeOf (hs : Q separator) : ∀ (lines : List (Option Text))
    {interpreter : Interpreter}, interpreter.registry = .default → MadeOf Q interpreter.state →
    (∀ line, some line ∈ lines → ∀ c ∈ line, Q c) → MadeOf Q (executeAll interpreter lines).state
  | [], _, _, h, _ => h
  | line :: lines, interpreter, hr, h, hq => by
    have hfirst : MadeOf Q (interpreter.execute line).2.state :=
      execute_madeOf hr hs h fun text ht => hq text (Option.mem_def.mp ht ▸ List.mem_cons_self)
    exact executeAll_madeOf hs lines ((execute_registry interpreter line).trans hr) hfirst
      fun text ht => hq text (List.mem_cons_of_mem _ ht)

end CmdletShell.Proofs.Runs.Characters
