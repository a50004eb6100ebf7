import TransportStack.Error
import TransportStack.Halves
import TransportStack.Net.Address
import TransportStack.Poll
import TransportStack.Signal

/-!
Sessions are multiplexed connections within the program. Either half opens streams that the other
one accepts, and sends datagrams that the other one receives. The streams that the dialing half
opens have odd numbers, those of the accepting half even ones. Both halves share one close signal.
-/

namespace TransportStack

/-- How a dialed connection was dialed, so that it can be dialed again. -/
structure MemoryDial where
  address : String
  capacity : Nat
  deriving DecidableEq, Repr

/-- What travels towards one half of a session, and what the half has done. -/
structure SessionHalf (τ : Type) where
  address : Address
  next : UInt64
  incoming : List τ
  datagrams : List (List UInt8)
  /-- Whether nobody holds the half any more. -/
  released : Bool
  deriving Repr

/-- A session. The first half is the one that has dialed. -/
structure Session (τ : Type) where
  capacity : Nat
  signal : Signal
  halves : Halves (SessionHalf τ)
  dial? : Option MemoryDial
  deriving Repr

namespace Session

variable {τ α : Type}

def start (capacity : Nat) (signal : Signal) (dialing accepting : Address)
    (dial? : Option MemoryDial) : Session τ :=
  ⟨capacity, signal, ⟨⟨dialing, 1, [], [], false⟩, ⟨accepting, 2, [], [], false⟩⟩, dial?⟩

def isDeserted (s : Session τ) (h : Half) : Bool :=
  (s.halves.get h.other).released

def modify (s : Session τ) (h : Half) (f : SessionHalf τ → SessionHalf τ) : Session τ :=
  { s with halves := s.halves.modify h f }

def takeNumber (s : Session τ) (h : Half) : UInt64 × Session τ :=
  ((s.halves.get h).next, s.modify h fun a => { a with next := a.next + 2 })

def sendStream (s : Session τ) (h : Half) (stream : τ) : Session τ :=
  s.modify h.other fun a => { a with incoming := a.incoming ++ [stream] }

def sendDatagram (s : Session τ) (g : Signals) (h : Half) (bytes : List UInt8) :
    Except TransportError (Session τ) :=
  if g.isFired s.signal || s.isDeserted h then .error .closed
  else .ok (s.modify h.other fun a => { a with datagrams := a.datagrams ++ [bytes] })

/-- Takes the first of what waits, fails when nothing more can come, and waits otherwise. -/
def receive (s : Session τ) (g : Signals) (h : Half) (waiting : List α)
    (keep : List α → Session τ) : Poll TransportError α × Session τ :=
  if g.isFired s.signal then (.failed .closed, s)
  else
    match waiting with
    | a :: rest => (.ready a, keep rest)
    | [] => (if s.isDeserted h then .failed .closed else .pending, s)

def acceptStream (s : Session τ) (g : Signals) (h : Half) : Poll TransportError τ × Session τ :=
  s.receive g h (s.halves.get h).incoming fun rest =>
    s.modify h fun a => { a with incoming := rest }

def receiveDatagram (s : Session τ) (g : Signals) (h : Half) :
    Poll TransportError (List UInt8) × Session τ :=
  s.receive g h (s.halves.get h).datagrams fun rest =>
    s.modify h fun a => { a with datagrams := rest }

def release (s : Session τ) (h : Half) : Session τ :=
  s.modify h fun a => { a with released := true }

end Session

end TransportStack
