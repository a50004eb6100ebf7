import TransportStack.Chain.Dialing
import TransportStack.Chain.Listening
import TransportStack.Parameters.Hint

/-!
Chains of layers. Building a chain goes from the address upwards: each layer is put on top of what
there is, and sees the common parameters with those of its own section laid over them. A chain for
one kind of producer ends with a last conversion. The side of a build tells which of the two ways of
doing all this is taken, that of dialing or that of listening.
-/

namespace TransportStack

/-- Resolved layers, the lowest one first, and the names of the defaults. -/
structure Chain (ι : Type) where
  layers : List (Layer ι)
  defaults : DefaultNames

namespace Chain

variable {ι : Type}

def ofNames (k : Catalogue ι) (names : List String) (o : ChainOptions) :
    Except TransportError (Chain ι) := do
  let layers ← Layer.resolve k o.enableSolutions o.enforceCompatibility names
  pure ⟨layers, o.defaults⟩

def ofScheme (k : Catalogue ι) (scheme : String) (o : ChainOptions) :
    Except TransportError (Chain ι) :=
  ofNames k (Scheme.split scheme) o

def site (c : Chain ι) (k : Catalogue ι) (refuse : Call ι → Option TransportError) (side : Side)
    (p : Parameters) : BuildSite ι :=
  ⟨side, ⟨k, c.defaults⟩, p.common, refuse⟩

def applyLayers (s : BuildSite ι) (p : Parameters) (ls : List (Layer ι)) (r : Representation ι) :
    Build ι (Representation ι) :=
  match s.side with
  | .dial => dialLayers s p ls r
  | .listen => listenLayers s p ls r

def build (c : Chain ι) (k : Catalogue ι) (refuse : Call ι → Option TransportError) (side : Side)
    (address : String) (p : Parameters) : Build ι (Representation ι) :=
  applyLayers (c.site k refuse side p) p c.layers (.address address)

def finish (s : BuildSite ι) (kind : ChainKind) (r : Representation ι) :
    Build ι (Representation ι) :=
  match s.side with
  | .dial => finishDialer s kind r
  | .listen => finishListener s kind r

def buildFor (c : Chain ι) (kind : ChainKind) (k : Catalogue ι)
    (refuse : Call ι → Option TransportError) (side : Side) (address : String) (p : Parameters) :
    Build ι (Representation ι) := do
  let r ← c.build k refuse side address p
  finish (c.site k refuse side p) kind r

end Chain

end TransportStack
