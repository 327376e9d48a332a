import CmdletShell.Argument.Operand
import CmdletShell.Command.Basic
import CmdletShell.Layout.Properties
import CmdletShell.Layout.Table

/-!
# Commands for the network

`Invoke-WebRequest` and `Test-Connection` ask the network of the session.
-/

namespace CmdletShell.Cmdlet

open Argument

/-- A request for a web page. -/
def invokeWebRequest : Command where
  description := {
    name := "Invoke-WebRequest"
    summary := "Sends an HTTP request to a web page"
    usage := "Invoke-WebRequest <uri>"
    category := "Network"
    flags := ["-Uri", "-Method"] }
  handler := fun context args => do
    match flagOrPositional "-Uri" ["-Uri", "-Method"] args with
    | none => throw (.missing "Invoke-WebRequest" "Uri" "Invoke-WebRequest requires a URI parameter.")
    | some address =>
      Action.note .debug "psim.commands.network" ("Simulated web request to " ++ address)
      let reply := context.network.fetch address
      return .reply (Reply.text (Layout.properties
        [("StatusCode", reply.statusCode.show),
          ("StatusDescription", reply.statusDescription.show), ("Content", reply.content.show),
          ("RawContent", reply.rawContent.show), ("Headers", reply.headers.show)]))

/-- The host that is asked for an echo. -/
def echoTarget (args : List Text) : Text :=
  (present (firstPresent (flagValue "-ComputerName" args)
    (flagOrPositional "-TargetName" ["-ComputerName", "-TargetName", "-Count"] args))).getD
    "localhost"

/-- An echo request. -/
def testConnection : Command where
  description := {
    name := "Test-Connection"
    summary := "Sends echo requests to a computer"
    usage := "Test-Connection [target]"
    category := "Network"
    flags := ["-ComputerName", "-TargetName"] }
  handler := .reading fun context _ args =>
    let reply := context.network.echo (echoTarget args)
    .ok (Reply.table (Layout.table
      [⟨"Source", 13⟩, ⟨"Destination", 15⟩, ⟨"IPV4Address", 16⟩, ⟨"IPV6Address", 40⟩, ⟨"Bytes", 8⟩,
        ⟨"Time(ms)", 0⟩]
      [[reply.source.show, reply.destination.show, reply.ipv4.show, reply.ipv6.show,
        reply.bytes.show, reply.millis.show]]))

/-- The commands for the network. -/
def networkCommands : List Command :=
  [invokeWebRequest, testConnection]

end CmdletShell.Cmdlet
