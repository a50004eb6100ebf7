import TransportStack.Catalogue
import TransportStack.Parameters.Hint

/-!
The implementations of layers: the basic ones, the ones that stay within the program, and recorded
ones, which stand in for any other layer and only write down what is asked of them.
-/

namespace TransportStack

inductive Implementation
  | tcp | udp
  /-- A connection of its own for every stream. -/
  | nomux
  | memory | memoryMux
  | recorded (name : String)
  deriving DecidableEq, Repr

namespace Implementation

def bufferKey : String := "buffer"

def standardBuffer : Nat := 65536

def bufferOf (p : Parameters) : Nat := p.positiveCount bufferKey standardBuffer

def bufferHint (description : String) : ParameterHint :=
  ⟨bufferKey, description, .integer, toString standardBuffer⟩

def hints (c : Category) : Implementation → List ParameterHint
  | tcp => CommonSettings.hints.filter fun h => h.key != CommonSettings.peerProbeKey
  | udp | nomux => []
  | memory => [bufferHint "pipe capacity in bytes per direction"]
  | memoryMux => [bufferHint "per-stream pipe capacity in bytes per direction"]
  | recorded _ => if c.isTransport then [⟨"label", "recorded label", .string, ""⟩] else []

def memoryName : String := "mem"

def memoryMuxName : String := "memmux"

def nomuxName : String := "nomux"

end Implementation

namespace Catalogue

def installBasics (k : Catalogue Implementation) : Catalogue Implementation :=
  ((k.register .streamConn "tcp" .tcp).register .packetConn "udp" .udp).register
    .streamSolution Implementation.nomuxName .nomux

def installMemory (k : Catalogue Implementation) : Catalogue Implementation :=
  (k.register .streamConn Implementation.memoryName .memory).register
    .addrSolution Implementation.memoryMuxName .memoryMux

/-- Registers recorded implementations, each under its own name. -/
def registerRecorded (k : Catalogue Implementation) (entries : List (String × Category)) :
    Catalogue Implementation :=
  entries.foldl (fun k e => k.register e.2 e.1 (.recorded e.1)) k

end Catalogue

end TransportStack
