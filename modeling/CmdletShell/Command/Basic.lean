import CmdletShell.Command.Device
import CmdletShell.Command.Reply
import CmdletShell.Session.Journal
import CmdletShell.Session.Moment
import CmdletShell.Session.State

/-!
# Commands

* `Action`: what runs in a session: it reads and changes the state, notes entries for the journal,
  and gives a value or fails. What it did before a failure stays done.
* `Context`: what surrounds a command: descriptions of the others, devices, clock and chance.
* `Command`: a description and a handler, which turns arguments into an action.
-/

namespace CmdletShell

/-- A state and what has been noted on the way to it. -/
structure Session where
  /-- The state. -/
  state : State
  /-- The entries noted so far. -/
  journal : Journal := []
  deriving Inhabited

/-- What an action comes to. -/
structure Outcome (α : Type) where
  /-- The value, or why there is none. -/
  result : Except Failure α
  /-- The state that the action leaves. -/
  state : State
  /-- The entries that the action noted. -/
  entries : Journal := []

/-- The outcome when entries were noted before its own. -/
def Outcome.after {α : Type} (entries : Journal) (outcome : Outcome α) : Outcome α :=
  { outcome with entries := entries ++ outcome.entries }

/-- What runs in a session. No action can read what has been noted. -/
structure Action (α : Type) where
  /-- What the action comes to in a state. -/
  run : State → Outcome α

namespace Action

variable {α : Type}

instance : Monad Action where
  pure value := ⟨fun state => ⟨.ok value, state, []⟩⟩
  bind action next := ⟨fun state =>
    match action.run state with
    | ⟨.ok value, state, entries⟩ => ((next value).run state).after entries
    | ⟨.error failure, state, entries⟩ => ⟨.error failure, state, entries⟩⟩

instance : MonadExceptOf Failure Action where
  throw failure := ⟨fun state => ⟨.error failure, state, []⟩⟩
  tryCatch action handle := ⟨fun state =>
    match action.run state with
    | ⟨.ok value, state, entries⟩ => ⟨.ok value, state, entries⟩
    | ⟨.error failure, state, entries⟩ => ((handle failure).run state).after entries⟩

/-- The state. -/
def state : Action State :=
  ⟨fun state => ⟨.ok state, state, []⟩⟩

/-- Changes the state. -/
def change (f : State → State) : Action Unit :=
  ⟨fun state => ⟨.ok (), f state, []⟩⟩

/-- Notes an entry. -/
def note (level : Level) (source message : Text) : Action Unit :=
  ⟨fun state => ⟨.ok (), state, [⟨level, source, message⟩]⟩⟩

/-- The value of a computation that may fail. -/
def lift (result : Except Failure α) : Action α :=
  ⟨fun state => ⟨result, state, []⟩⟩

/-- The value of a computation that may break down. -/
def attempt (result : Except Fault α) : Action α :=
  lift (result.mapError Failure.fault)

/-- The outcome of an action in a session, and the session it leaves. -/
def outcome (action : Action α) (session : Session) : Except Failure α × Session :=
  let outcome := action.run session.state
  (outcome.result, ⟨outcome.state, session.journal ++ outcome.entries⟩)

end Action

/-- What is told about a command. -/
structure Description where
  /-- The name, as it is written. -/
  name : Text
  /-- What the command does, in a line. -/
  summary : Text := []
  /-- How the command is called. -/
  usage : Text := []
  /-- The group of commands that it belongs to. -/
  category : Text := "General"
  /-- The flags that are offered for it. -/
  flags : List Text := []
  deriving DecidableEq, Repr, Inhabited

/-- The name under which a command is found. -/
def Description.key (description : Description) : Text :=
  Text.lower description.name

/-- A description whose usage, if it has none, is the name. -/
def Description.complete (description : Description) : Description :=
  if description.usage.isEmpty then { description with usage := description.name }
  else description

/-- What surrounds a command. -/
structure Context where
  /-- The store of items. -/
  items : ItemStore := .simulated
  /-- The network. -/
  network : Network := .simulated
  /-- The identity of the host. -/
  instanceId : Text := []
  /-- The time. -/
  clock : Moment
  /-- A whole number between two others. -/
  random : Int → Int → Int
  /-- The description of the command of a name. -/
  describe : Text → Option Description := fun _ => none

/-- What a handler gives back. -/
inductive Answer where
  /-- A reply, as it should. -/
  | reply (reply : Reply)
  /-- A value that is none. -/
  | other (value : Value)
  deriving Inhabited

/-- Turns arguments into an action. -/
abbrev Handler := Context → List Text → Action Answer

/-- A command. -/
structure Command where
  /-- What is told about it. -/
  description : Description
  /-- What it does. -/
  handler : Handler

namespace Handler

/-- A handler that reads the state and changes nothing. -/
def reading (f : Context → State → List Text → Except Failure Reply) : Handler :=
  fun context args => do
    let reply ← Action.lift (f context (← Action.state) args)
    return .reply reply

/-- A handler that gives a reply and a new state. -/
def changing (f : Context → State → List Text → Except Failure (Reply × State)) : Handler :=
  fun context args => do
    let (reply, state) ← Action.lift (f context (← Action.state) args)
    Action.change fun _ => state
    return .reply reply

end Handler

end CmdletShell
