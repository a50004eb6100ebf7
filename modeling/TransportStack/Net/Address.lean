import TransportStack.Net.Ip

/-!
Addresses of sockets and listeners.
-/

namespace TransportStack

inductive Address
  | socket (network : String) (address : SocketAddress)
  /-- A host in the words of the network. The port is zero when there is none. -/
  | named (network host : String) (port : UInt16)
  | empty (network : String)
  | muxed (connection : Address) (stream : UInt64)
  deriving DecidableEq, Repr

namespace Address

def network : Address → String
  | socket n _ | named n _ _ | empty n => n
  | muxed a _ => a.network

def variant : Address → String
  | socket .. => "socket"
  | named .. => "named"
  | empty _ => "empty"
  | muxed .. => "muxed"

def socketAddress? : Address → Option SocketAddress
  | socket _ s => some s
  | muxed a _ => a.socketAddress?
  | named .. | empty _ => none

def render : Address → String
  | socket _ s => s.render
  | named _ host _ => host
  | empty n => n ++ ":"
  | muxed a id => a.render ++ "#" ++ toString id.toNat

/-- The address of a socket whose IP address may be unknown. -/
def ofSocket? (network : String) (s : Option SocketAddress) : Address :=
  match s with
  | some s => socket network s
  | none => empty network

end Address

end TransportStack
