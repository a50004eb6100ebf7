import TransportStack.Network.Listen

/-!
What sockets and streams offer that have no more than they must: a recorded socket for packets, a
recorded stream and a recorded multiplexed socket.
-/

namespace TransportStack.Network

def redialPacket (_ : PacketSocket) : Net PacketSocket := throw .redialNotSupported

def receiveOutOfBand (_ : PacketSocket) : Net (List UInt8) :=
  throw (.operationNotSupported "recv_with_oob")

end TransportStack.Network

namespace TransportStack.Scenario

/-- The failures of what is not offered, and what is told of the three before and after the sockets
are closed. -/
structure Minimal where
  packetOutOfBand : Option TransportError
  packetRedial : Option TransportError
  streamRedial : Option TransportError
  socketRedial : Option TransportError
  socketSend : Option TransportError
  socketReceive : Option TransportError
  canRedial : List Bool
  closed : List Bool
  closedAfter : List Bool

namespace Minimal

def failure? {α : Type} (r : Except TransportError α) : Option TransportError :=
  match r with
  | .error e => some e
  | .ok _ => none

def look : Option Minimal :=
  let setup : Net (PacketSocket × Stream × Socket) := do
    let packet ← Network.newPacketSocket
    let signal ← modifyGet Network.newRoot
    let socket ← Network.newRecordedSocket "x"
    return (packet, .recorded (.empty "x") 3 signal, socket)
  match setup .empty with
  | (.error _, _) => none
  | (.ok (packet, stream, socket), n) =>
      let seen := fun n : Network =>
        [n.isFired packet.signal, n.isFired stream.signal, n.isClosed socket]
      let after := Network.closeSocket socket (n.fire packet.signal)
      some {
        packetOutOfBand := failure? (Network.receiveOutOfBand packet n).1
        packetRedial := failure? (Network.redialPacket packet n).1
        streamRedial := failure? (Network.redialStream stream n).1
        socketRedial := failure? (Network.redialSocket socket n).1
        socketSend := failure? (Network.sendDatagram socket [] n).1
        socketReceive := match (Network.receiveDatagram socket n).1 with
          | .done r => failure? r
          | .pending => none
        canRedial := [false, stream.canRedial, n.canRedial socket]
        closed := seen n
        closedAfter := seen after }

end Minimal

end TransportStack.Scenario
