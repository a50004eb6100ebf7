import TransportStack.Layer.Category

/-!
Sets of layer categories as bit masks, and the compatibility matrix of neighbouring layers.
-/

namespace TransportStack

def Category.bit : Category → UInt16
  | packetConn => 0x01
  | streamConn => 0x02
  | streamAdapter => 0x04
  | packetAdapter => 0x08
  | streamObfuscator => 0x10
  | packetObfuscator => 0x20
  | packetSolution => 0x40
  | streamSolution => 0x80
  | addrSolution => 0x100

structure Mask where
  bits : UInt16
  deriving DecidableEq, Repr

def Category.mask (c : Category) : Mask := ⟨c.bit⟩

namespace Mask

def none : Mask := ⟨0⟩

def union (a b : Mask) : Mask := ⟨a.bits ||| b.bits⟩

def inter (a b : Mask) : Mask := ⟨a.bits &&& b.bits⟩

def ofList (cs : List Category) : Mask :=
  cs.foldl (fun m c => m.union c.mask) none

def takingStream : Mask := ofList [.packetAdapter, .streamObfuscator, .streamSolution]

def takingPacket : Mask := ofList [.streamAdapter, .packetObfuscator, .packetSolution]

def takingAddress : Mask := ofList [.streamConn, .packetConn, .addrSolution]

def muxers : Mask := ofList [.streamSolution, .packetSolution, .addrSolution]

def transports : Mask := ofList [.packetConn, .streamConn, .addrSolution]

def streamSources : Mask := ofList [.streamObfuscator, .streamAdapter, .streamConn]

def packetSources : Mask := ofList [.packetObfuscator, .packetAdapter, .packetConn]

/-- Whether all categories of `b` are in `a`, and there are some. -/
def contains (a b : Mask) : Bool :=
  b.bits != 0 && a.bits &&& b.bits == b.bits

def intersects (a b : Mask) : Bool :=
  a.bits &&& b.bits != 0

def isMuxer (m : Mask) : Bool := muxers.contains m

def isTransport (m : Mask) : Bool := transports.contains m

/-- The category of a set that has exactly one. -/
def single? (m : Mask) : Option Category :=
  Category.all.find? fun c => c.mask == m

/-- The categories allowed directly beneath one category. Multiplexers may lie under a layer that
takes streams and is no multiplexer itself. -/
def below : Category → Mask
  | .packetAdapter | .streamObfuscator => streamSources.union muxers
  | .packetObfuscator | .streamAdapter | .packetSolution => packetSources
  | .streamSolution => streamSources
  | .packetConn | .streamConn | .addrSolution => none

/-- The categories allowed directly beneath a set; nothing unless the set is a single category. -/
def compatibleBelow (m : Mask) : Mask :=
  (m.single?.map below).getD none

/-- Whether `under` may lie directly beneath `m`. Where nothing is allowed, only nothing may. -/
def acceptsBelow (m under : Mask) : Bool :=
  if m.compatibleBelow = none then under = none else m.compatibleBelow.intersects under

def name (m : Mask) : String :=
  if m = none then "None" else (m.single?.map Category.name).getD "Mixed"

def debug (m : Mask) : String :=
  "LayerType(" ++ m.name ++ ", 0x" ++ String.ofList (Nat.toDigits 16 m.bits.toNat) ++ ")"

end Mask

end TransportStack
