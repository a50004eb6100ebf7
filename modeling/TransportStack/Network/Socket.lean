import TransportStack.Network.Producer
import TransportStack.Network.Stream

/-!
Multiplexed sockets, and sockets for packets. A socket without multiplexing either dials a
connection for every stream, or carries the one stream of an accepted connection.
-/

namespace TransportStack

inductive Socket
  | session (session : Nat) (half : Half)
  /-- A socket that dials a connection for every stream. -/
  | dialed (cell : Nat)
  /-- A socket for the one stream of an accepted connection. -/
  | accepted (cell : Nat)
  /-- A socket that is only written down. -/
  | recorded (cell : Nat)
  deriving DecidableEq, Repr

structure DialedSocket where
  dialer : Producer
  signal : Signal
  remote? : Option Address

namespace DialedSocket

def remoteAddress (s : DialedSocket) : Address :=
  s.remote?.getD (.empty Implementation.nomuxName)

end DialedSocket

/-- A socket for the one stream of an accepted connection, which it has until it hands it out. -/
structure AcceptedSocket where
  stream? : Option Stream
  signal : Signal
  localAddress : Address
  remoteAddress : Address
  deriving Repr

/-- A socket that is only written down: under which name it was made, and how many streams have been
opened on it. -/
structure RecordedSocket where
  name : String
  signal : Signal
  opened : Nat
  deriving Repr

def RecordedSocket.address (cell : Nat) : Address :=
  .empty ("mock" ++ toString (cell + 1))

structure PacketSocket where
  signal : Signal
  localAddress : Address
  remoteAddress : Address
  deriving DecidableEq, Repr

end TransportStack
