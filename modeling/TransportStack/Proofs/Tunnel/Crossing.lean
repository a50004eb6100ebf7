import TransportStack.Proofs.Tunnel.Fate

/-!
A dialer and a listener of sessions whose calls and tasks overtake each other. A call of the dialer
has its connection before it opens a stream on it, and a worker accepts a stream before it offers
it; anything else may happen between. There is a record of what the listener has returned.
-/

namespace TransportStack

namespace Tunnel

/-- Whether a stream was opened on a session. -/
def isOn (t : Tunnel) (j : Nat) (s : Stream) : Bool :=
  t.network.sessions[j]?.any fun x => x.signal.lineage == s.signal.ancestors

/-- What a call of the listener returns now, unless it has to wait. -/
def accepted? (t : Tunnel) : Option Stream :=
  match (t.network.acceptOnStreamListener t.listener).1 with
  | .done (.ok s) => some s
  | _ => none

/-- The streams that a worker has in hand. -/
def handOf (inHand : List (Nat × Stream)) (worker : Nat) : List Stream :=
  (inHand.filter fun q => q.1 == worker).map Prod.snd

/-- The state between two moves. -/
structure Crossing where
  tunnel : Tunnel
  /-- The connection of a call of the dialer that has yet to open its stream. -/
  turn? : Option Socket
  /-- The streams that workers have accepted and not yet offered. -/
  inHand : List (Nat × Stream)
  returned : List Stream

namespace Crossing

/-- What happens between two looks at the state: a part of a call of the dialer, a part of a step of
a worker, or an act as a whole. -/
inductive Move
  | takeTurn
  | openStream
  | receive (worker : Nat)
  | offer (worker : Nat)
  | act (a : Act)

/-- The tunnel when the streams in the hands of workers are held too. -/
def whole (g : Crossing) : Tunnel :=
  { g.tunnel with held := g.tunnel.held ++ g.inHand.map Prod.snd }

/-- A call of the dialer waits until no other one is under way. -/
def takeTurn (g : Crossing) : Crossing :=
  match g.turn?, g.tunnel.dialer with
  | none, .rotating cell inner =>
      match Network.takeTurn cell (Network.dial inner) g.tunnel.network with
      | (.ok c, n) => { g with tunnel := { g.tunnel with network := n }, turn? := some c }
      | (.error _, n) => { g with tunnel := { g.tunnel with network := n } }
  | _, _ => g

def openStream (g : Crossing) : Crossing :=
  match g.turn?, g.tunnel.dialer with
  | some c, .rotating cell _ =>
      match Network.openInTurn cell (throw .closed) c g.tunnel.network with
      | (.ok s, n) =>
          { g with
            tunnel := { g.tunnel with
              network := n
              held := g.tunnel.held ++ [s]
              dialed := g.tunnel.dialed ++ [s] }
            turn? := none }
      | (.error _, n) => { g with tunnel := { g.tunnel with network := n }, turn? := none }
  | _, _ => g

def receive (worker : Nat) (g : Crossing) : Crossing :=
  match handOf g.inHand worker, g.tunnel.network.receive? 0 worker with
  | [], some (s, n) =>
      { g with tunnel := { g.tunnel with network := n }, inHand := g.inHand ++ [(worker, s)] }
  | _, _ => g

def offer (worker : Nat) (g : Crossing) : Crossing :=
  match handOf g.inHand worker with
  | [] => g
  | s :: _ =>
      { g with
        tunnel := { g.tunnel with network := g.tunnel.network.offer 0 worker s }
        inHand := g.inHand.filter fun q => q.1 != worker }

def act (g : Crossing) : Act → Crossing
  | .dial => if g.turn?.isNone then { g with tunnel := g.tunnel.dial } else g
  | .accept =>
      { g with tunnel := g.tunnel.accept, returned := g.returned ++ g.tunnel.accepted?.toList }
  | .task worker? =>
      if worker?.all fun worker => (handOf g.inHand worker).isEmpty then
        { g with tunnel := g.tunnel.act (.task worker?) }
      else g
  | .release => { g with tunnel := { g.tunnel with network := (g.whole.act .release).network } }
  | a => { g with tunnel := g.tunnel.act a }

/-- Makes a move; one that cannot be made changes nothing. -/
def move (g : Crossing) : Move → Crossing
  | .takeTurn => g.takeTurn
  | .openStream => g.openStream
  | .receive worker => g.receive worker
  | .offer worker => g.offer worker
  | .act a => g.act a

def run (g : Crossing) (moves : List Move) : Crossing := moves.foldl move g

/-- Whether no task of the listener can take a step and a call of it would have to wait. -/
def IsStuck (g : Crossing) : Prop :=
  g.inHand = [] ∧ (∀ worker?, g.tunnel.network.taskStep? 0 worker? = none) ∧
    (g.tunnel.network.acceptOnStreamListener g.tunnel.listener).1 = .pending

end Crossing

end Tunnel

end TransportStack
