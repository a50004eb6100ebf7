import TransportStack.Network.Construct
import TransportStack.Proofs.Network.Sessions
import TransportStack.Proofs.Network.Tasks
import TransportStack.Scenario.ByteOp

/-!
A demultiplexed dialer of sessions and the demultiplexed listener that it dials, with the streams
between them. The program dials, accepts, uses streams and gives them up; the tasks of the listener
and the release of what nobody holds take their steps at any time between.
-/

namespace TransportStack

open Scenario (ByteOp)

/-- The state between two acts. -/
structure Tunnel where
  network : Network
  dialer : Producer
  listener : StreamListener
  held : List Stream
  dialed : List Stream
  /-- The pipes of the streams that the program has closed or given up, and of those on which an
  operation has failed. -/
  ended : List Nat

namespace Tunnel

/-- Something that happens. The program acts on streams that it holds; a task acts when it does not
have to wait. -/
inductive Act
  | dial
  | accept
  | task (worker? : Option Nat)
  | release
  | perform (s : Stream) (op : ByteOp)
  | close (s : Stream)
  | drop (s : Stream)

/-- Whether an act is one of the program on the streams of a pipe. -/
def Act.Uses (pipe : Nat) : Act → Prop
  | perform s _ | close s | drop s => s.pipe? = some pipe
  | dial | accept | task _ | release => False

/-- Whether an act happens without the program. -/
def Act.Unprompted : Act → Prop
  | task _ | release => True
  | dial | accept | perform .. | close _ | drop _ => False

def roots (t : Tunnel) : List Holding :=
  t.dialer.holdings ++ t.listener.holdings ++ t.held.flatMap Stream.holdings

def dial (t : Tunnel) : Tunnel :=
  match Network.dial t.dialer t.network with
  | (.ok (.stream s), n) =>
      { t with network := n, held := t.held ++ [s], dialed := t.dialed ++ [s] }
  | (_, n) => { t with network := n }

def accept (t : Tunnel) : Tunnel :=
  match t.network.acceptOnStreamListener t.listener with
  | (.done (.ok s), n) => { t with network := n, held := t.held ++ [s] }
  | (_, n) => { t with network := n }

def perform (t : Tunnel) (s : Stream) (op : ByteOp) : Tunnel :=
  match op.perform (Network.bytes s) t.network with
  | (some (.failed _), n) => { t with network := n, ended := s.pipe?.toList ++ t.ended }
  | (_, n) => { t with network := n }

def close (t : Tunnel) (s : Stream) : Tunnel :=
  { t with network := Network.closeStream s t.network, ended := s.pipe?.toList ++ t.ended }

def drop (t : Tunnel) (s : Stream) : Tunnel :=
  { t with held := t.held.erase s, ended := s.pipe?.toList ++ t.ended }

def act (t : Tunnel) : Act → Tunnel
  | .dial => t.dial
  | .accept => t.accept
  | .task worker? => { t with network := (t.network.taskStep? 0 worker?).getD t.network }
  | .release => { t with network := (t.network.release? t.roots).getD t.network }
  | .perform s op => if s ∈ t.held then t.perform s op else t
  | .close s => if s ∈ t.held then t.close s else t
  | .drop s => if s ∈ t.held then t.drop s else t

def run (t : Tunnel) (acts : List Act) : Tunnel := acts.foldl act t

/-- What an act leaves as it was: the streams that calls have yielded, which streams were ended, and
the pipes of those that were not, except that of a stream that it uses. -/
structure Frame (a : Act) (t t' : Tunnel) : Prop where
  dialed : t.dialed <+: t'.dialed
  ended : ∀ i ∈ t'.ended, i ∈ t.ended ∨ a.Uses i
  pipes : ∀ i < t.network.pipes.length, i ∉ t.ended → ¬a.Uses i →
    t'.network.pipes[i]? = t.network.pipes[i]?

/-- Whether every task has to wait and nothing is to be released. -/
def Settled (t : Tunnel) : Prop :=
  t.network.step? = none ∧ t.network.release? t.roots = none

def shutdown : Signal := ⟨1, [0]⟩

/-- One listener for sessions, and the sockets that wait for it. -/
def listening (address : String) (inbox : List Socket) : Exchange Socket where
  bindings := [⟨address, inbox, ⟨0, []⟩, true⟩]
  table := Dict.empty.insert address 0
  live e he := by
    obtain rfl := List.mem_singleton.1 he
    exact ⟨_, rfl, rfl⟩

/-- A listener and a dialer of sessions at one address, both demultiplexed, before any call. -/
def start (address : String) (p : Parameters) (limit capacity : Nat) : Tunnel where
  network :=
    { Network.empty with
      signals := ⟨2, []⟩
      rotations := [.start limit]
      demuxers := [⟨.start capacity, .memory 0, shutdown⟩]
      sockets := listening address [] }
  dialer := .rotating 0 (.bound .addrSolution .memoryMux address p)
  listener := .gathered 0 shutdown (.memory 0)
  held := []
  dialed := []
  ended := []

def workshop : Workshop := ⟨Catalogue.new.installMemory, .empty⟩

/-- Listens at an address and makes a dialer for it, for streams over sessions. -/
def connect (address : String) (listening dialing : Parameters) : Net (StreamListener × Producer) :=
  do
    let listener ← Network.produce workshop .stream .listen Implementation.memoryMuxName address
      listening .standard
    match ← Network.listen listener with
    | .streamListener l =>
        let dialer ← Network.produce workshop .stream .dial Implementation.memoryMuxName address
          dialing .standard
        return (l, dialer)
    | _ => throw (Network.misfit "listen")

private theorem ofScheme_memoryMux :
    Chain.ofScheme workshop.catalogue Implementation.memoryMuxName .standard =
      .ok ⟨[⟨Implementation.memoryMuxName, .addrSolution, .memoryMux, 0⟩], .standard⟩ := by
  rfl

theorem produce_eq (side : Side) (address : String) (p : Parameters) (n : Network) :
    let r : Recipe Implementation :=
      .demux p.common (.bound .addrSolution .memoryMux address (p.seenBy "memmux[0]"))
    Network.produce workshop .stream side Implementation.memoryMuxName address p .standard n =
      (.ok (n.newProducer side r).1, (n.newProducer side r).2) := by
  intro r
  have composed : Network.produce workshop .stream side Implementation.memoryMuxName address p
      .standard n = (do
        let chain ← Network.ofExcept
          (Chain.ofScheme workshop.catalogue Implementation.memoryMuxName .standard)
        Network.producer side (← Network.construct workshop chain .stream side address p) :
          Net Producer) n := rfl
  rw [composed, ofScheme_memoryMux]
  cases side <;> rfl

/-- Listening and making a dialer leads to the start. -/
theorem connect_eq (address : String) (listening dialing : Parameters) :
    let t := start address (dialing.seenBy "memmux[0]")
      (dialing.common.positiveCount Rotation.limitKey 1) (FanIn.capacityOf listening.common)
    connect address listening dialing .empty = (.ok (t.listener, t.dialer), t.network) := by
  intro t
  simp only [connect, bind, ExceptT.bind, ExceptT.mk, StateT.bind, ExceptT.bindCont, produce_eq]
  rfl

end Tunnel

end TransportStack
