import TransportStack.Catalogue
import TransportStack.Error

/-!
The implementations that are put between two layers of which the upper one needs something else
than the lower one produces.
-/

namespace TransportStack

inductive DefaultSlot
  | packetConn | streamConn | streamSolution | packetSolution | streamAdapter | packetAdapter
  deriving DecidableEq, Repr

namespace DefaultSlot

def all : List DefaultSlot :=
  [packetConn, streamConn, streamSolution, packetSolution, streamAdapter, packetAdapter]

def name : DefaultSlot → String
  | packetConn => "packet_conn"
  | streamConn => "stream_conn"
  | streamSolution => "stream_solution"
  | packetSolution => "packet_solution"
  | streamAdapter => "stream_adapter"
  | packetAdapter => "packet_adapter"

def category : DefaultSlot → Category
  | packetConn => .packetConn
  | streamConn => .streamConn
  | streamSolution => .streamSolution
  | packetSolution => .packetSolution
  | streamAdapter => .streamAdapter
  | packetAdapter => .packetAdapter

end DefaultSlot

structure DefaultNames where
  packetConn : String
  streamConn : String
  streamSolution : String
  packetSolution : String
  streamAdapter : String
  packetAdapter : String
  deriving DecidableEq, Repr

namespace DefaultNames

def standard : DefaultNames where
  packetConn := "udp"
  streamConn := "tcp"
  streamSolution := "nomux"
  packetSolution := "quic"
  streamAdapter := "kcp"
  packetAdapter := "spos"

def name (names : DefaultNames) : DefaultSlot → String
  | .packetConn => names.packetConn
  | .streamConn => names.streamConn
  | .streamSolution => names.streamSolution
  | .packetSolution => names.packetSolution
  | .streamAdapter => names.streamAdapter
  | .packetAdapter => names.packetAdapter

def set (names : DefaultNames) (slot : DefaultSlot) (name : String) : DefaultNames :=
  match slot with
  | .packetConn => { names with packetConn := name }
  | .streamConn => { names with streamConn := name }
  | .streamSolution => { names with streamSolution := name }
  | .packetSolution => { names with packetSolution := name }
  | .streamAdapter => { names with streamAdapter := name }
  | .packetAdapter => { names with packetAdapter := name }

end DefaultNames

/-- Names of defaults together with the catalogue in which they are looked up when needed. -/
structure Defaults (ι : Type) where
  catalogue : Catalogue ι
  names : DefaultNames

def Defaults.find {ι : Type} (d : Defaults ι) (slot : DefaultSlot) : Except TransportError ι :=
  match d.catalogue.find? slot.category (d.names.name slot) with
  | some i => .ok i
  | none => .error (.schemeNotSupported (d.names.name slot))

structure ChainOptions where
  enableSolutions : Bool
  enforceCompatibility : Bool
  defaults : DefaultNames
  deriving DecidableEq, Repr

def ChainOptions.standard : ChainOptions := ⟨true, true, .standard⟩

def ChainOptions.permissive (o : ChainOptions) : ChainOptions :=
  { o with enforceCompatibility := false }

end TransportStack
