import RouteServer.App.Service
import RouteServer.Net.Address
import RouteServer.Net.Wire

/-
  **Networks** — what listening and connecting come to.

  A network knows the addresses of names, the addresses at which one can listen, and whether a
  connection to a listener comes about.  The isolated network has listeners and no connections: a
  server can be started there, and never becomes ready.
-/

namespace RouteServer.Net

/-- What a machine's network allows. -/
structure Network where
  /-- the addresses of names -/
  resolve : String → Option IpAddress
  /-- whether the machine has an address -/
  owns : IpAddress → Bool
  /-- whether connections come about -/
  connects : Bool

/-- Every address can be listened at, and nothing connects. -/
def Network.isolated : Network where
  resolve name := if name = "localhost" then some (.v4 127 0 0 1) else none
  owns _ := true
  connects := false

inductive BindError where
  /-- the text is no host and port -/
  | invalid
  /-- the name has no address -/
  | unresolved
  /-- the address belongs to another machine -/
  | unavailable
  deriving DecidableEq, Repr

def BindError.message : BindError → String
  | .invalid => "invalid socket address"
  | .unresolved => "failed to lookup address information: Temporary failure in name resolution"
  | .unavailable => "Cannot assign requested address (os error 99)"

namespace Network

/-- Starts to listen, at the address that a text gives. -/
def bind (n : Network) (address : String) : Except BindError IpAddress :=
  match Address.ofString? address with
  | none => .error .invalid
  | some a =>
    let ip := match a.host with
      | .ip ip => some ip
      | .name s => n.resolve s
    match ip with
    | none => .error .unresolved
    | some ip => if n.owns ip then .ok ip else .error .unavailable

/-- Sends texts over connections to a service, each after the answer to the one before; nothing
    when no connection comes about. -/
def exchange (n : Network) (s : Service) (sent : List (List UInt8)) : Option (List Wire.Answer) :=
  if n.connects then some (Wire.serveAll s [] sent) else none

end Network

end RouteServer.Net
