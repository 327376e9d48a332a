import CmdletShell.Argument.Operand
import CmdletShell.Command.Basic

/-!
# Commands for items

`New-Item`, `Copy-Item`, `Move-Item` and `Remove-Item` hand their operands to the store of items.
-/

namespace CmdletShell.Cmdlet

open Argument

/-- The reply with the words of the store, or its breakdown. -/
def storeReply (result : Except Fault Text) : Except Failure Reply :=
  match result with
  | .ok words => .ok (Reply.text words)
  | .error fault => .error (.fault fault)

/-- The type of a new item. -/
def itemType (args : List Text) : Text :=
  (present (flagValue "-ItemType" args)).getD "File"

/-- A new item. -/
def newItem : Command where
  description := {
    name := "New-Item"
    summary := "Creates a new item"
    usage := "New-Item <path> [-ItemType File|Directory]"
    category := "Items"
    flags := ["-ItemType", "-Path"] }
  handler := fun context args => do
    match flagOrPositional "-Path" itemFlags args with
    | none => throw (.missing "New-Item" "Path" [])
    | some path =>
      let type := itemType args
      Action.note .debug "psim.commands.items" ("New-Item " ++ path ++ " (" ++ type ++ ")")
      return .reply (← Action.lift (storeReply (context.items.create path type)))

/-- A copy of an item. -/
def copyItem : Command where
  description := {
    name := "Copy-Item"
    summary := "Copies an item from one location to another"
    usage := "Copy-Item <source> <destination>"
    category := "Items"
    flags := ["-Path", "-Destination"] }
  handler := .reading fun context _ args => do
    let (source, destination) ← operands "Copy-Item" args
    storeReply (context.items.copy source destination)

/-- A move of an item. -/
def moveItem : Command where
  description := {
    name := "Move-Item"
    summary := "Moves an item from one location to another"
    usage := "Move-Item <source> <destination>"
    category := "Items"
    flags := ["-Path", "-Destination"] }
  handler := .reading fun context _ args => do
    let (source, destination) ← operands "Move-Item" args
    storeReply (context.items.move source destination)

/-- A removal of an item. -/
def removeItem : Command where
  description := {
    name := "Remove-Item"
    summary := "Deletes an item"
    usage := "Remove-Item <path>"
    category := "Items"
    flags := ["-Path"] }
  handler := .reading fun context _ args =>
    match flagOrPositional "-Path" itemFlags args with
    | none => .error (.missing "Remove-Item" "Path" "Remove-Item requires a path parameter.")
    | some path => storeReply (context.items.remove path)

/-- The commands for items. -/
def itemCommands : List Command :=
  [newItem, copyItem, moveItem, removeItem]

end CmdletShell.Cmdlet
