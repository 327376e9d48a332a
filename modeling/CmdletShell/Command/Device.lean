import CmdletShell.Failure

/-!
# Simulated devices

The commands act on no real files and no real network. A store of items and a network answer them,
so that a session can be given others that fail or answer differently.
-/

namespace CmdletShell

/-- A store of items: each operation gives the words of its success, or fails. -/
structure ItemStore where
  /-- Creates an item of a type at a path. -/
  create : Text → Text → Except Fault Text
  /-- Copies a source to a destination. -/
  copy : Text → Text → Except Fault Text
  /-- Moves a source to a destination. -/
  move : Text → Text → Except Fault Text
  /-- Removes the item at a path. -/
  remove : Text → Except Fault Text

/-- What a web server answers. -/
structure WebReply where
  /-- The number of the status. -/
  statusCode : Value
  /-- The words of the status. -/
  statusDescription : Value
  /-- The page. -/
  content : Value
  /-- The first line of the answer. -/
  rawContent : Value
  /-- The names of the header fields. -/
  headers : Value

/-- What an echo request gives. -/
structure EchoReply where
  /-- The host that asks. -/
  source : Value
  /-- The host that is asked. -/
  destination : Value
  /-- Its address of 32 bits. -/
  ipv4 : Value
  /-- Its address of 128 bits. -/
  ipv6 : Value
  /-- The size of the request. -/
  bytes : Value
  /-- The time it took. -/
  millis : Value

/-- A network. -/
structure Network where
  /-- Fetches a web page. -/
  fetch : Text → WebReply
  /-- Sends an echo request. -/
  echo : Text → EchoReply

/-- A store in which every operation succeeds. -/
def ItemStore.simulated : ItemStore where
  create path type := .ok ("Created " ++ Text.lower type ++ ": " ++ path)
  copy source destination := .ok ("Copied '" ++ source ++ "' to '" ++ destination ++ "'")
  move source destination := .ok ("Moved '" ++ source ++ "' to '" ++ destination ++ "'")
  remove path := .ok ("Removed item: " ++ path)

/-- A network in which every page and every host is found. -/
def Network.simulated : Network where
  fetch address := {
    statusCode := .int 200
    statusDescription := .str "OK"
    content := .str ("[Web content for " ++ address ++ "]")
    rawContent := .str "HTTP/1.1 200 OK"
    headers := .str "\x7bContent-Type, Content-Length\x7d" }
  echo host := {
    source := .str "DEVOPS-STUDIO"
    destination := .str host
    ipv4 := .str "192.168.1.100"
    ipv6 := .str "fe80::1234:5678:9abc:def0%10"
    bytes := .int 32
    millis := .int 1 }

end CmdletShell
