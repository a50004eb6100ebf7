import TransportStack.Demux.FanIn
import TransportStack.Memory.Exchange
import TransportStack.Memory.Session
import TransportStack.Network.Listener
import TransportStack.Network.Rehearsal
import TransportStack.Pipe

/-!
The network is the state of everything that streams, sockets and listeners refer to. Each kind of
thing is kept in a list and known by its place there.
-/

namespace TransportStack

/-- A demultiplexed listener: its queue and tasks, the listener that feeds it, and its shutdown
signal. -/
structure Demuxer where
  fan : FanIn Socket Stream
  listener : MuxListener
  shutdown : Signal

structure Network where
  signals : Signals
  identities : Nat
  pipes : List Pipe
  sessions : List (Session Stream)
  dialed : List DialedSocket
  accepted : List AcceptedSocket
  recorded : List RecordedSocket
  rotations : List (Rotation Socket)
  demuxers : List Demuxer
  streams : Exchange Stream
  sockets : Exchange Socket
  /-- The signals of single streams, each with the signal of the stream inside, which it follows. -/
  links : List (Signal × Signal)
  rehearsal : Rehearsal

/-- An operation on the network that can fail. What it did before it failed stays done. -/
abbrev Net (α : Type) := ExceptT TransportError (StateM Network) α

namespace Network

def empty : Network where
  signals := .empty
  identities := 0
  pipes := []
  sessions := []
  dialed := []
  accepted := []
  recorded := []
  rotations := []
  demuxers := []
  streams := .empty
  sockets := .empty
  links := []
  rehearsal := .empty

def isFired (n : Network) (s : Signal) : Bool := n.signals.isFired s

def fire (n : Network) (s : Signal) : Network := { n with signals := n.signals.fire s }

def newRoot (n : Network) : Signal × Network :=
  let (s, g) := n.signals.root
  (s, { n with signals := g })

def newChild (n : Network) (parent : Signal) : Signal × Network :=
  let (s, g) := n.signals.child parent
  (s, { n with signals := g })

def newPipe (n : Network) (capacity : Nat) : Nat × Network :=
  (n.pipes.length, { n with pipes := n.pipes ++ [.empty capacity] })

def pairStreams (n : Network) (capacity : Nat) (signal : Signal) (number : UInt64)
    (first second : Address) : (Stream × Stream) × Network :=
  let (pipe, n) := n.newPipe capacity
  ((.piped ⟨pipe, .first, signal, number, first, second, none⟩,
    .piped ⟨pipe, .second, signal, number, second, first, none⟩), n)

def newSession (n : Network) (capacity : Nat) (dialing accepting : Address)
    (dial? : Option MemoryDial) : Nat × Network :=
  let (signal, n) := n.newRoot
  (n.sessions.length,
    { n with sessions := n.sessions ++ [.start capacity signal dialing accepting dial?] })

def hexDigits (width k : Nat) : List Char :=
  let digits := Nat.toDigits 16 k
  List.replicate (width - digits.length) '0' ++ digits

def identityText (k : Nat) : String :=
  "00000000-0000-4000-8000-" ++ String.ofList (hexDigits 12 k)

def newClient (n : Network) (network : String) : Address × Network :=
  (.named network ("client-" ++ identityText n.identities) 0,
    { n with identities := n.identities + 1 })

def serverAddress (network host : String) : Address := .named network host 0

def newProducer (n : Network) (side : Side) (r : Recipe Implementation) : Producer × Network :=
  let (p, limits) := Producer.ofRecipe side n.rotations.length r
  (p, { n with rotations := n.rotations ++ limits.map Rotation.start })

end Network

end TransportStack
