import TransportStack.Error
import TransportStack.Net.Address
import TransportStack.Net.IpReader

/-!
Addresses in the form `ip[:port]`, and the list form of asking for encryption.
-/

namespace TransportStack

open TransportStack.Text

/-- Cuts a port off at the last colon. Two colons in a row do not begin a port. -/
def splitPort (cs : List Char) : List Char × List Char :=
  match cutLast ':' cs with
  | some (host, port) => if host.getLast? = some ':' then (cs, ['0']) else (host, port)
  | none => (cs, ['0'])

def dropBrackets (cs : List Char) : List Char :=
  dropEnd (cs.dropWhile (· == '['))
where
  dropEnd (cs : List Char) : List Char := (cs.reverse.dropWhile (· == ']')).reverse

/-- The address of an IP text with an optional port. Only `tcp` and `udp` have addresses of
sockets. -/
def Address.ofHostPort (transport hostPort : String) : Except TransportError Address :=
  let (host, port) := splitPort hostPort.toList
  match Ip.read? (dropBrackets host) with
  | none => .error (.invalidAddress ("invalid ip address: " ++ hostPort))
  | some ip =>
      match Width.port.readNat? (String.ofList port) with
      | none => .error (.invalidAddress ("invalid port: " ++ hostPort))
      | some port =>
          if transport = "tcp" ∨ transport = "udp" then
            .ok (.socket transport (.ofIp ip port.toUInt16))
          else .ok (.named transport hostPort port.toUInt16)

def secureNames : List String := ["secure", "tls"]

/-- Takes the first name that asks for encryption out of a list, and tells whether there is one. -/
def splitSecure : List String → List String × Bool
  | [] => ([], false)
  | n :: ns =>
      if secureNames.contains n then (ns, true)
      else
        let r := splitSecure ns
        (n :: r.1, r.2)

end TransportStack
