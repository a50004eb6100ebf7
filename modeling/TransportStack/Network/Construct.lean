import TransportStack.Chain
import TransportStack.Network.Release
import TransportStack.Uri

/-!
From schemes and URIs to producers and sockets. What a recorded implementation is asked while a
chain is built is written down; building leaves everything else on the network alone. A URI is taken
apart by any reader.
-/

namespace TransportStack

structure Workshop where
  catalogue : Catalogue Implementation
  plan : Dict TransportError

namespace Network

variable {α : Type}

def carryOut (b : Build Implementation α) : Net α := do
  modify fun n => { n with
    rehearsal := (b.calls.filterMap LogEntry.ofCall?).foldl Rehearsal.note n.rehearsal }
  ofExcept b.result

def construct (w : Workshop) (chain : Chain Implementation) (kind : ChainKind) (side : Side)
    (address : String) (p : Parameters) : Net (Representation Implementation) :=
  carryOut (chain.buildFor kind w.catalogue (refusals w.plan) side address p)

/-- The producer of an intermediate result. An address is no producer. -/
def producer (side : Side) (r : Representation Implementation) : Net Producer :=
  match r with
  | .packet r | .stream r | .muxed r => modifyGet (·.newProducer side r)
  | .address _ => throw (.invalidChainingResult .muxed .address)

def produce (w : Workshop) (kind : ChainKind) (side : Side) (scheme address : String)
    (p : Parameters) (o : ChainOptions) : Net Producer := do
  let chain ← ofExcept (Chain.ofScheme w.catalogue scheme o)
  producer side (← construct w chain kind side address p)

def produceUri (reader : Uri.Reader) (w : Workshop) (side : Side) (uri : String) :
    Net Producer := do
  let e ← ofExcept (Endpoint.readWith reader uri)
  produce w .muxed side e.scheme e.address e.parameters .standard

def dialUri (reader : Uri.Reader) (w : Workshop) (uri : String) : Net Socket := do
  match ← dial (← produceUri reader w .dial uri) with
  | .muxed s => return s
  | _ => throw (misfit "dial")

def listenUri (reader : Uri.Reader) (w : Workshop) (uri : String) : Net MuxListener := do
  match ← listen (← produceUri reader w .listen uri) with
  | .muxListener l => return l
  | _ => throw (misfit "listen")

end Network

end TransportStack
