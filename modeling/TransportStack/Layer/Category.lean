import TransportStack.Layer.Shape

/-!
The nine categories of layers: what each consumes, what it produces, and which may sit directly on
top of which.
-/

namespace TransportStack

inductive Category
  /-- Packets from an address. -/
  | packetConn
  /-- Streams from an address. -/
  | streamConn
  /-- Streams over packets. -/
  | streamAdapter
  /-- Packets over streams. -/
  | packetAdapter
  /-- Streams transformed byte by byte. -/
  | streamObfuscator
  /-- Packets transformed byte by byte. -/
  | packetObfuscator
  /-- Multiplexed connections over packets. -/
  | packetSolution
  /-- Multiplexed connections over streams. -/
  | streamSolution
  /-- Multiplexed connections from an address. -/
  | addrSolution
  deriving DecidableEq, Repr

namespace Category

def all : List Category :=
  [packetConn, streamConn, streamAdapter, packetAdapter, streamObfuscator, packetObfuscator,
    packetSolution, streamSolution, addrSolution]

def name : Category → String
  | packetConn => "PacketConn"
  | streamConn => "StreamConn"
  | streamAdapter => "StreamAdapter"
  | packetAdapter => "PacketAdapter"
  | streamObfuscator => "StreamObfuscator"
  | packetObfuscator => "PacketObfuscator"
  | packetSolution => "PacketSolution"
  | streamSolution => "StreamSolution"
  | addrSolution => "AddrSolution"

def takes : Category → Shape
  | packetConn | streamConn | addrSolution => .address
  | streamAdapter | packetObfuscator | packetSolution => .packet
  | packetAdapter | streamObfuscator | streamSolution => .stream

def gives : Category → Shape
  | packetConn | packetAdapter | packetObfuscator => .packet
  | streamConn | streamAdapter | streamObfuscator => .stream
  | packetSolution | streamSolution | addrSolution => .muxed

/-- Whether a layer of the category has to be the lowest of its chain. -/
def isTransport (c : Category) : Bool :=
  c.takes == .address

def isMuxer (c : Category) : Bool :=
  c.gives == .muxed

end Category

end TransportStack
