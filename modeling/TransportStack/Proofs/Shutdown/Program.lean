import TransportStack.Network.Construct
import TransportStack.Proofs.Network.Tasks
import TransportStack.Scenario.ByteOp

/-!
A program with everything that goes on beside it: it follows producers and uses what it holds, single
streams follow their connections, the tasks of demultiplexed listeners take their steps, and what
nobody holds is released, in any order. One look of a call or a task at the network is one act; a
worker accepts a stream at one look and offers it at the next.
-/

namespace TransportStack

open Network
open Scenario (ByteOp)

/-- What a task sees of the network. Its listener or connection may fail to accept for a reason of
its own. -/
def Demuxer.supply (d : Demuxer) : Option TransportError → FanIn.Supply Network Socket Stream
  | none => Network.supply (acceptOnMuxListener d.listener) d.shutdown
  | some e =>
      { Network.supply (fun n => (.failed e, n)) d.shutdown with
        acceptStream := fun _ n => (.failed e, n) }

namespace Network

/-- A step of one task, unless it has to wait, when accepting may fail. -/
def taskStepWith? (n : Network) (i : Nat) (worker? : Option Nat)
    (fault? : Option TransportError) : Option Network := do
  let d ← n.demuxers[i]?
  let p := d.supply fault?
  let (fan, n) ← match worker? with
    | none => d.fan.acceptorStep? p n
    | some worker => do
        let c ← d.fan.connection? worker
        d.fan.workerStep? p worker c n
  return { n with demuxers := n.demuxers.modify i fun d => { d with fan := fan } }

def isShut (n : Network) (i : Nat) : Bool :=
  (n.demuxers[i]?.map fun d => n.isFired d.shutdown).getD true

/-- Whether the listener of a demultiplexed listener fails to accept a connection. -/
def FailsToAccept (n : Network) (i : Nat) (fault? : Option TransportError) : Prop :=
  ∃ d e n', n.demuxers[i]? = some d ∧ (d.supply fault?).acceptConnection n = (.failed e, n')

end Network

/-- A stream that a worker has accepted and not yet offered. -/
structure InHand where
  demuxer : Nat
  worker : Nat
  stream : Stream

structure Program where
  network : Network
  /-- What the program holds. -/
  products : List Product
  inHand : List InHand

/-- What a program does with a thing that it holds. -/
inductive Use
  | accept
  | openStream
  | redial
  | perform (op : ByteOp)
  | send (payload : List UInt8)
  | receive
  | close

/-- What happens. Things that the program holds are known by their places in the list of them. -/
inductive Act
  | produce (side : Side) (r : Recipe Implementation)
  | follow (side : Side) (p : Producer)
  | pairSockets (capacity : Nat)
  | pairStreams (capacity : Nat) (number : UInt64)
  | use (place : Nat) (u : Use)
  | drop (place : Nat)
  | clear
  | link
  /-- A release of what neither the program nor the tasks nor some others hold. -/
  | release (others : List Holding)
  | acceptor (demuxer : Nat) (fault? : Option TransportError)
  | worker (demuxer worker : Nat) (fault? : Option TransportError)

namespace Use

def made {α : Type} (f : α → Product) (r : Except TransportError α × Network) :
    List Product × Network :=
  ((r.1.map f).toOption.toList, r.2)

def looked {α : Type} (f : α → Product) (r : Poll TransportError α × Network) :
    List Product × Network :=
  match r.1 with
  | .pending => ([], r.2)
  | .done a => made f (a, r.2)

/-- What the program gets by a use of a thing. -/
def run (u : Use) (x : Product) (n : Network) : List Product × Network :=
  match x, u with
  | .packet s, .close => ([], n.fire s.signal)
  | .stream s, .redial => made .stream (redialStream s n)
  | .stream s, .perform op => ([], (op.perform (bytes s) n).2)
  | .stream s, .close => ([], closeStream s n)
  | .muxed s, .openStream => looked .stream (Network.openStream s n)
  | .muxed s, .accept => looked .stream (acceptStream s n)
  | .muxed s, .redial => made .muxed (redialSocket s n)
  | .muxed s, .send payload => ([], (sendDatagram s payload n).2)
  | .muxed s, .receive => ([], (receiveDatagram s n).2)
  | .muxed s, .close => ([], closeSocket s n)
  | .streamListener l, .accept => looked .stream (acceptOnStreamListener l n)
  | .streamListener l, .close => ([], closeStreamListener l n)
  | .muxListener l, .accept => looked .muxed (acceptOnMuxListener l n)
  | .muxListener l, .close => ([], closeMuxListener l n)
  | _, _ => ([], n)

end Use

namespace Program

def start (r : Rehearsal) : Program := ⟨{ Network.empty with rehearsal := r }, [], []⟩

def roots (p : Program) : List Holding :=
  p.products.flatMap Product.holdings ++ p.inHand.flatMap fun q => q.stream.holdings

def gains (p : Program) (r : List Product × Network) : Program :=
  { p with network := r.2, products := p.products ++ r.1 }

/-- One look of a worker. With a stream in hand it offers it, or gives it up when the listener has
shut down; without one it accepts a stream, unless it has to wait or ends. -/
def work (p : Program) (i worker : Nat) (fault? : Option TransportError) : Program :=
  let isIts (q : InHand) : Bool := q.demuxer == i && q.worker == worker
  match p.inHand.find? isIts, fault?, p.network.receive? i worker with
  | some q, _, _ =>
      { p with
        network :=
          if p.network.isShut i then
            (p.network.taskStepWith? i (some worker) none).getD p.network
          else p.network.offer i worker q.stream
        inHand := p.inHand.filter fun q => !isIts q }
  | none, none, some (s, n) => { p with network := n, inHand := p.inHand ++ [⟨i, worker, s⟩] }
  | none, _, _ =>
      { p with network := (p.network.taskStepWith? i (some worker) fault?).getD p.network }

def act (p : Program) : Act → Program
  | .produce side r => { p with network := (p.network.newProducer side r).2 }
  | .follow side q => p.gains (Use.made id (follow side q p.network))
  | .pairSockets capacity =>
      let (i, n) := p.network.newSession capacity (.empty "client") (.empty "server") none
      p.gains ([.muxed (.session i .first), .muxed (.session i .second)], n)
  | .pairStreams capacity number =>
      let (signal, n) := p.network.newRoot
      let ((a, b), n) := n.pairStreams capacity signal number (.empty "a") (.empty "b")
      p.gains ([.stream a, .stream b], n)
  | .use place u =>
      match p.products[place]? with
      | some x => p.gains (u.run x p.network)
      | none => p
  | .drop place => { p with products := p.products.eraseIdx place }
  | .clear => { p with network := p.network.clearListeners }
  | .link => { p with network := p.network.linkStep?.getD p.network }
  | .release others =>
      { p with network := (p.network.release? (p.roots ++ others)).getD p.network }
  | .acceptor i fault? =>
      { p with network := (p.network.taskStepWith? i none fault?).getD p.network }
  | .worker i worker fault? => p.work i worker fault?

def run (p : Program) (acts : List Act) : Program := acts.foldl act p

end Program

/-- What an act does to the queue and the tasks of a listener that has shut down: a task ends. -/
def Act.stops (i : Nat) (f : FanIn Socket Stream) : Act → FanIn Socket Stream
  | .acceptor j _ => if j = i then f.stopAccepting else f
  | .worker j k _ => if j = i then f.leave k else f
  | _ => f

end TransportStack
