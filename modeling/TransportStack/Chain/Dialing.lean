import TransportStack.Chain.Build
import TransportStack.Layer

/-!
The dialing side of a chain: what its conversions put in, how each category of layers is put on top
of what there is, and how a chain ends. The listening side is written out apart.
-/

namespace TransportStack

namespace BuildSite

variable {ι : Type}

def dialBound (s : BuildSite ι) (c : Category) (i : ι) (address : String) (p : Parameters) :
    Build ι (Recipe ι) :=
  s.ask ⟨.dial, c, i, some address, p, none⟩ (.bound c i address p)

def dialOnTop (s : BuildSite ι) (c : Category) (i : ι) (p : Parameters) (input : Recipe ι) :
    Build ι (Recipe ι) :=
  s.ask ⟨.dial, c, i, none, p, some input⟩ (.onTop c i p input)

/-- A producer of packets, for dialing. -/
def packetDialer (s : BuildSite ι) : Representation ι → Build ι (Recipe ι)
  | .packet r => pure r
  | .stream r => do
      let i ← s.default .packetAdapter
      s.dialOnTop .packetAdapter i s.common r
  | .muxed r => do
      let i ← s.default .packetAdapter
      let r ← s.demux r
      s.dialOnTop .packetAdapter i s.common r
  | .address a => do
      let i ← s.default .packetConn
      s.dialBound .packetConn i a s.common

def streamDialer (s : BuildSite ι) : Representation ι → Build ι (Recipe ι)
  | .stream r => pure r
  | .muxed r => s.demux r
  | .packet r => do
      let i ← s.default .streamAdapter
      s.dialOnTop .streamAdapter i s.common r
  | .address a => do
      let i ← s.default .streamConn
      s.dialBound .streamConn i a s.common

/-- A producer of multiplexed connections. No default makes one of an address. -/
def muxedDialer (s : BuildSite ι) : Representation ι → Build ι (Recipe ι)
  | .muxed r => pure r
  | .stream r => do
      let i ← s.default .streamSolution
      s.dialOnTop .streamSolution i s.common r
  | .packet r => do
      let i ← s.default .packetSolution
      s.dialOnTop .packetSolution i s.common r
  | .address _ => .fail (.invalidChainingResult .muxed .address)

/-- Puts an implementation of a category on top of what there is. -/
def dialLayer (s : BuildSite ι) (c : Category) (i : ι) (p : Parameters)
    (input : Representation ι) : Build ι (Representation ι) :=
  match c with
  | .packetAdapter => do
      let r ← s.streamDialer input
      return .packet (← s.dialOnTop .packetAdapter i p r)
  | .streamObfuscator => do
      let r ← s.streamDialer input
      return .stream (← s.dialOnTop .streamObfuscator i p r)
  | .streamSolution => do
      let r ← s.streamDialer input
      return .muxed (← s.dialOnTop .streamSolution i p r)
  | .streamAdapter => do
      let r ← s.packetDialer input
      return .stream (← s.dialOnTop .streamAdapter i p r)
  | .packetObfuscator => do
      let r ← s.packetDialer input
      return .packet (← s.dialOnTop .packetObfuscator i p r)
  | .packetSolution => do
      let r ← s.packetDialer input
      return .muxed (← s.dialOnTop .packetSolution i p r)
  | .streamConn => do
      let a ← toAddress input
      return .stream (← s.dialBound .streamConn i a p)
  | .packetConn => do
      let a ← toAddress input
      return .packet (← s.dialBound .packetConn i a p)
  | .addrSolution => do
      let a ← toAddress input
      return .muxed (← s.dialBound .addrSolution i a p)

end BuildSite

namespace Chain

variable {ι : Type}

def dialLayers (s : BuildSite ι) (p : Parameters) :
    List (Layer ι) → Representation ι → Build ι (Representation ι)
  | [], r => pure r
  | l :: ls, r => do
      let r ← s.dialLayer l.category l.implementation (p.seenBy l.sectionName) r
      dialLayers s p ls r

/-- The last conversion, for the kind of producer that is wanted. -/
def finishDialer (s : BuildSite ι) (kind : ChainKind) (r : Representation ι) :
    Build ι (Representation ι) :=
  match kind with
  | .generic => pure r
  | .packet => do return .packet (← s.packetDialer r)
  | .stream => do return .stream (← s.streamDialer r)
  | .muxed => do return .muxed (← s.muxedDialer r)

end Chain

end TransportStack
