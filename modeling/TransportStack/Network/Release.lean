import TransportStack.Network.Listen

/-!
Ownership. What nobody holds any more is released: a pipe ends when one of its halves is released, a
single stream fires its signal, a session notices that its other half is gone, a listener within the
program is unbound and gets nothing more, and a demultiplexed listener shuts down. Things are held
by the program, by the tasks that have not ended, and by other things that are held.
-/

namespace TransportStack

inductive Holding
  | pipeHalf (pipe : Nat) (half : Half)
  /-- A single stream, known by its signal. -/
  | single (signal : Signal)
  | sessionHalf (session : Nat) (half : Half)
  | dialed (cell : Nat)
  | accepted (cell : Nat)
  | rotation (cell : Nat)
  | streamBinding (binding : Nat)
  | socketBinding (binding : Nat)
  | demuxer (cell : Nat)
  deriving DecidableEq, Repr

def Stream.holdings : Stream → List Holding
  | .piped s => [.pipeHalf s.pipe s.half]
  | .single inner signal socket? =>
      .single signal :: ((socket?.map Holding.dialed).toList ++ inner.holdings)
  | .recorded .. => []

def Socket.holdings : Socket → List Holding
  | .session i h => [.sessionHalf i h]
  | .dialed i => [.dialed i]
  | .accepted i => [.accepted i]
  | .recorded _ => []

def Producer.holdings (p : Producer) : List Holding := p.cells.map .rotation

mutual

def StreamListener.holdings : StreamListener → List Holding
  | .memory i => [.streamBinding i]
  | .gathered i _ inner => .demuxer i :: inner.holdings
  | .idle _ => []

def MuxListener.holdings : MuxListener → List Holding
  | .memory i => [.socketBinding i]
  | .single inner => inner.holdings
  | .idle _ => []

end

def Product.holdings : Product → List Holding
  | packet _ => []
  | stream s => s.holdings
  | muxed s => s.holdings
  | streamListener l => l.holdings
  | muxListener l => l.holdings

/-- What the tasks of a demultiplexed listener hold. Each of them also keeps the queue. -/
def Demuxer.taskHoldings (d : Demuxer) : List Holding :=
  (if d.fan.accepting then d.listener.holdings else []) ++
    d.fan.workers.flatMap (fun k => k.2.holdings) ++
    d.fan.parked.flatMap (fun p => p.2.holdings) ++
    if d.fan.tasks = 0 then [] else d.fan.queue.flatMap Stream.holdings

namespace Network

/-- What a thing holds. The queues of a session live as long as either half. -/
def heldBy (n : Network) : Holding → List Holding
  | .pipeHalf .. | .single _ => []
  | .sessionHalf i _ =>
      (n.sessions[i]?.map fun s =>
        (s.halves.first.incoming ++ s.halves.second.incoming).flatMap Stream.holdings).getD []
  | .dialed i => (n.dialed[i]?.map fun s => s.dialer.holdings).getD []
  | .accepted i =>
      ((n.accepted[i]?.bind (·.stream?)).map Stream.holdings).getD []
  | .rotation i => ((n.rotations[i]?.bind (·.connection)).map Socket.holdings).getD []
  | .streamBinding i =>
      (n.streams.bindings[i]?.map fun b => b.inbox.flatMap Stream.holdings).getD []
  | .socketBinding i =>
      (n.sockets.bindings[i]?.map fun b => b.inbox.flatMap Socket.holdings).getD []
  | .demuxer i => (n.demuxers[i]?.map fun d => d.fan.queue.flatMap Stream.holdings).getD []

/-- All things that were made so far and need to be released, and are not. -/
def unreleased (n : Network) : List Holding :=
  (withPlaces n.pipes).flatMap (fun (p, i) =>
      if p.released then [] else [.pipeHalf i .first, .pipeHalf i .second]) ++
    (n.links.filter fun l => !n.isFired l.1).map (fun l => .single l.1) ++
    (withPlaces n.sessions).flatMap (fun (s, i) =>
      [Half.first, Half.second].filterMap fun h =>
        if (s.halves.get h).released then none else some (.sessionHalf i h)) ++
    n.streams.present.map .streamBinding ++ n.sockets.present.map .socketBinding ++
    (withPlaces n.demuxers).filterMap fun (d, i) =>
      if n.isFired d.shutdown then none else some (.demuxer i)
where
  withPlaces {α : Type} (xs : List α) : List (α × Nat) := xs.zipIdx

/-- Adds what the newly found things hold, and so on, at most so many times. -/
def mark (n : Network) : Nat → List Holding → List Holding → List Holding
  | 0, marked, _ => marked
  | _ + 1, marked, [] => marked
  | k + 1, marked, found =>
      let next := ((found.flatMap n.heldBy).filter fun h => !marked.contains h).eraseDups
      mark n k (next ++ marked) next

def holdingCount (n : Network) : Nat :=
  2 * n.pipes.length + n.links.length + 2 * n.sessions.length + n.dialed.length +
    n.accepted.length + n.rotations.length + n.streams.bindings.length +
    n.sockets.bindings.length + n.demuxers.length

def held (n : Network) (roots : List Holding) : List Holding :=
  let roots := (roots ++ n.demuxers.flatMap Demuxer.taskHoldings).eraseDups
  n.mark (n.holdingCount + 1) roots roots

def releaseOne (n : Network) : Holding → Network
  | .pipeHalf i _ => { n with pipes := n.pipes.modify i Pipe.release }
  | .single signal => n.fire signal
  | .sessionHalf i h => { n with sessions := n.sessions.modify i fun s => s.release h }
  | .streamBinding i => { n with streams := n.streams.drop i }
  | .socketBinding i => { n with sockets := n.sockets.drop i }
  | .demuxer i =>
      match n.demuxers[i]? with
      | some d => n.fire d.shutdown
      | none => n
  | .dialed _ | .accepted _ | .rotation _ => n

def release? (n : Network) (roots : List Holding) : Option Network :=
  let held := n.held roots
  match n.unreleased.filter fun h => !held.contains h with
  | [] => none
  | loose => some (loose.foldl releaseOne n)

end Network

end TransportStack
