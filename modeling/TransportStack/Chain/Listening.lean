import TransportStack.Chain.Build
import TransportStack.Layer

/-!
The listening side of a chain: what its conversions put in, how each category of layers is put on
top of what there is, and how a chain ends. Nothing here refers to the dialing side.
-/

namespace TransportStack

namespace BuildSite

variable {ι : Type}

def listenBound (s : BuildSite ι) (c : Category) (i : ι) (address : String) (p : Parameters) :
    Build ι (Recipe ι) :=
  s.ask ⟨.listen, c, i, some address, p, none⟩ (.bound c i address p)

def listenOnTop (s : BuildSite ι) (c : Category) (i : ι) (p : Parameters) (input : Recipe ι) :
    Build ι (Recipe ι) :=
  s.ask ⟨.listen, c, i, none, p, some input⟩ (.onTop c i p input)

/-- A producer of packets, for listening. -/
def packetListener (s : BuildSite ι) : Representation ι → Build ι (Recipe ι)
  | .packet r => pure r
  | .stream r => do
      let i ← s.default .packetAdapter
      s.listenOnTop .packetAdapter i s.common r
  | .muxed r => do
      let i ← s.default .packetAdapter
      let r ← s.demux r
      s.listenOnTop .packetAdapter i s.common r
  | .address a => do
      let i ← s.default .packetConn
      s.listenBound .packetConn i a s.common

def streamListener (s : BuildSite ι) : Representation ι → Build ι (Recipe ι)
  | .stream r => pure r
  | .muxed r => s.demux r
  | .packet r => do
      let i ← s.default .streamAdapter
      s.listenOnTop .streamAdapter i s.common r
  | .address a => do
      let i ← s.default .streamConn
      s.listenBound .streamConn i a s.common

/-- A producer of multiplexed connections. No default makes one of an address. -/
def muxedListener (s : BuildSite ι) : Representation ι → Build ι (Recipe ι)
  | .muxed r => pure r
  | .stream r => do
      let i ← s.default .streamSolution
      s.listenOnTop .streamSolution i s.common r
  | .packet r => do
      let i ← s.default .packetSolution
      s.listenOnTop .packetSolution i s.common r
  | .address _ => .fail (.invalidChainingResult .muxed .address)

/-- Puts an implementation of a category on top of what there is. -/
def listenLayer (s : BuildSite ι) (c : Category) (i : ι) (p : Parameters)
    (input : Representation ι) : Build ι (Representation ι) :=
  match c with
  | .packetAdapter => do
      let r ← s.streamListener input
      return .packet (← s.listenOnTop .packetAdapter i p r)
  | .streamObfuscator => do
      let r ← s.streamListener input
      return .stream (← s.listenOnTop .streamObfuscator i p r)
  | .streamSolution => do
      let r ← s.streamListener input
      return .muxed (← s.listenOnTop .streamSolution i p r)
  | .streamAdapter => do
      let r ← s.packetListener input
      return .stream (← s.listenOnTop .streamAdapter i p r)
  | .packetObfuscator => do
      let r ← s.packetListener input
      return .packet (← s.listenOnTop .packetObfuscator i p r)
  | .packetSolution => do
      let r ← s.packetListener input
      return .muxed (← s.listenOnTop .packetSolution i p r)
  | .streamConn => do
      let a ← toAddress input
      return .stream (← s.listenBound .streamConn i a p)
  | .packetConn => do
      let a ← toAddress input
      return .packet (← s.listenBound .packetConn i a p)
  | .addrSolution => do
      let a ← toAddress input
      return .muxed (← s.listenBound .addrSolution i a p)

end BuildSite

namespace Chain

variable {ι : Type}

def listenLayers (s : BuildSite ι) (p : Parameters) :
    List (Layer ι) → Representation ι → Build ι (Representation ι)
  | [], r => pure r
  | l :: ls, r => do
      let r ← s.listenLayer l.category l.implementation (p.seenBy l.sectionName) r
      listenLayers s p ls r

/-- The last conversion, for the kind of producer that is wanted. -/
def finishListener (s : BuildSite ι) (kind : ChainKind) (r : Representation ι) :
    Build ι (Representation ι) :=
  match kind with
  | .generic => pure r
  | .packet => do return .packet (← s.packetListener r)
  | .stream => do return .stream (← s.streamListener r)
  | .muxed => do return .muxed (← s.muxedListener r)

end Chain

end TransportStack
