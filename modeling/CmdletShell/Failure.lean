import CmdletShell.Json.Display

/-!
# Failures

* `Fault`: something inside went wrong: a value of a kind that an operation cannot use, a device
  that fails, an interrupt.
* `Failure`: why a command line fails: reported on purpose, or a fault.
* `Failure.message`: the words for the user.
-/

namespace CmdletShell

/-! ### Computations that may fail -/

section Computation
variable {ε α β : Type} {run : Except ε α}

theorem ok_of_map {f : α → β} {b : β} (h : run.map f = .ok b) : ∃ a, run = .ok a ∧ f a = b := by
  cases run with
  | error e => cases h
  | ok a => exact ⟨a, rfl, Except.ok.inj h⟩

theorem ok_of_bind {f : α → Except ε β} {b : β} (h : run >>= f = .ok b) :
    ∃ a, run = .ok a ∧ f a = .ok b := by
  cases run with
  | error e => cases h
  | ok a => exact ⟨a, rfl, h⟩

/-- A computation in two parts fails in the first or in the second. -/
theorem bind_error_cases {f : α → Except ε β} {e : ε} (h : run >>= f = .error e) :
    run = .error e ∨ ∃ a, run = .ok a ∧ f a = .error e := by
  cases run with
  | error e' => cases h; exact Or.inl rfl
  | ok a => exact Or.inr ⟨a, rfl, h⟩

theorem isOk_iff : run.isOk = true ↔ ∃ a, run = .ok a := by
  cases run with
  | error e => simp [Except.isOk, Except.toBool]
  | ok a => simp [Except.isOk, Except.toBool]

theorem isOk_map (f : α → β) (run : Except ε α) : (run.map f).isOk = run.isOk := by
  cases run <;> rfl

theorem isOk_bind {f : α → Except ε β} :
    (run >>= f).isOk = true ↔ ∃ a, run = .ok a ∧ (f a).isOk = true := by
  constructor
  · intro h
    obtain ⟨b, hb⟩ := isOk_iff.mp h
    obtain ⟨a, ha, hfa⟩ := ok_of_bind hb
    exact ⟨a, ha, isOk_iff.mpr ⟨b, hfa⟩⟩
  · rintro ⟨a, rfl, h⟩
    exact h

/-- A list of computations succeeds if each of them does. -/
theorem isOk_mapM {f : α → Except ε β} : ∀ {items : List α},
    (items.mapM f).isOk = true ↔ ∀ item ∈ items, (f item).isOk = true
  | [] => by simp [Except.isOk, Except.toBool, pure, Except.pure]
  | item :: items => by
    rw [List.mapM_cons, isOk_bind, List.forall_mem_cons, ← isOk_mapM, isOk_iff]
    constructor
    · rintro ⟨b, hb, h⟩
      obtain ⟨bs, hbs, -⟩ := isOk_bind.mp h
      exact ⟨⟨b, hb⟩, isOk_iff.mpr ⟨bs, hbs⟩⟩
    · rintro ⟨⟨b, hb⟩, h⟩
      obtain ⟨bs, hbs⟩ := isOk_iff.mp h
      exact ⟨b, hb, isOk_bind.mpr ⟨bs, hbs, rfl⟩⟩

end Computation

/-! ### Faults and failures -/

/-- Something inside went wrong. -/
inductive Fault where
  /-- A value of this kind has no such operation. -/
  | missingOperation (kind : Value.Kind) (operation : Text)
  /-- A value of the wrong kind. -/
  | wrongKind
  /-- A value of the right kind that is not allowed. -/
  | wrongValue
  /-- A name that is not allowed. -/
  | wrongName
  /-- A command or a device broke down with a text, which may be empty. -/
  | broken (text : Text)
  /-- A file stands where a directory is needed. -/
  | fileExists
  /-- A file stands in the middle of a path. -/
  | notDirectory
  /-- A file is not text. -/
  | undecodable
  /-- A text that markup cannot hold. -/
  | unmarkable
  /-- The user asked to stop. -/
  | interrupted
  deriving DecidableEq, Repr, Inhabited

namespace Fault

/-- The words of a fault, empty if it has none. -/
def text : Fault → Text
  | .missingOperation kind operation =>
    "'" ++ kind.name ++ "' object has no attribute '" ++ operation ++ "'"
  | .broken text => text
  | _ => []

/-- Whether the fault is one of the file system. -/
def isFiling : Fault → Bool
  | .fileExists | .notDirectory => true
  | _ => false

end Fault

/-- Why a command line fails. -/
inductive Failure where
  /-- No command has the name that was typed. -/
  | notRecognized (word : Text)
  /-- A command lacks a parameter; an empty detail stands for the usual one. -/
  | missing (command parameter detail : Text)
  /-- A whole number was needed. -/
  | notInteger (raw : Text)
  /-- The least number of a range is above the greatest. -/
  | boundsReversed (least greatest : Int)
  /-- A command gave back something else than a reply. -/
  | wrongAnswer (command : Text) (kind : Value.Kind)
  /-- A command reports a failure of its own. -/
  | reported (message : Text)
  /-- Something inside went wrong. -/
  | fault (fault : Fault)
  deriving DecidableEq, Repr, Inhabited

namespace Failure

/-- What a missing parameter is explained with. -/
def missingDetail (command parameter detail : Text) : Text :=
  if detail.isEmpty then command ++ " requires a " ++ parameter ++ " parameter." else detail

/-- The words for the user, empty for a fault without words. -/
def message : Failure → Text
  | .notRecognized word =>
    "The term '" ++ word ++ "' is not recognized as the name of a cmdlet, " ++
      "function, script file, or operable program."
  | .missing command parameter detail =>
    missingDetail command parameter detail ++ " Missing: " ++ parameter
  | .notInteger raw => "Cannot convert value \"" ++ raw ++ "\" to type \"System.Int32\"."
  | .boundsReversed least greatest =>
    "The Minimum value (" ++ Text.writeInteger least ++ ") cannot be greater than " ++
      "the Maximum value (" ++ Text.writeInteger greatest ++ ")."
  | .wrongAnswer command kind =>
    command ++ " returned " ++ kind.name ++ ", expected HandlerOutput"
  | .reported message => message
  | .fault inner => inner.text

/-- Whether the failure was reported on purpose. -/
def isDeliberate : Failure → Bool
  | .fault _ => false
  | _ => true

end Failure

end CmdletShell
