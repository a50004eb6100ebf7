import TransportStack.Proofs.Network.Sessions
import TransportStack.Scenario.ByteOp

/-!
Sessions and streams within the program, where the program has both ends of each. It opens and
accepts streams, sends and receives datagrams, reads, writes, closes, and gives up what it has; what
nobody holds is released at any time between. The history tells what was done and what came of it.

An act is a whole call, or one look of a call that waits. No call waits between two changes that it
makes, so it is in the acts that calls alternate. Opening a stream makes two changes: it takes the
next number, and it sends the other end. If calls of several threads alternated between the two, they
would still take different numbers and send ends with the numbers that they took, and the peer would
accept them in the order of sending.
-/

namespace TransportStack

open Scenario (ByteOp ByteResult)

/-- The pipe beneath a stream with two ends, and which of the ends the stream is. -/
def Stream.end? : Stream → Option (Nat × Half)
  | piped s => some (s.pipe, s.half)
  | single .. | recorded .. => none

namespace Paired

/-- Something that the program has done, and what came of it. -/
inductive Happening
  | pairedSockets (capacity session : Nat)
  | pairedStreams (capacity : Nat) (first second : Stream)
  | opened (session : Nat) (half : Half) (result : Except TransportError Stream)
  | accepted (session : Nat) (half : Half) (answer : Poll TransportError Stream)
  | sent (session : Nat) (half : Half) (payload : List UInt8) (result : Except TransportError Unit)
  | received (session : Nat) (half : Half) (answer : Poll TransportError (List UInt8))
  | closed (session : Nat) (half : Half)
  | left (session : Nat) (half : Half)
  | used (stream : Stream) (op : ByteOp) (answer : Option ByteResult)
  | closedStream (stream : Stream)
  | dropped (stream : Stream)
  | released

namespace Happening

def sockets : Happening → List Socket
  | pairedSockets _ i => [.session i .first, .session i .second]
  | _ => []

/-- The streams that the program gets. -/
def streams : Happening → List Stream
  | pairedStreams _ first second => [first, second]
  | opened _ _ (.ok s) => [s]
  | accepted _ _ (.done (.ok s)) => [s]
  | _ => []

/-- The first end of a stream that comes to be, and the session that it is of. -/
def births : Happening → List (Option Nat × PipedStream)
  | pairedStreams _ (.piped s) _ => [(none, s)]
  | opened i _ (.ok (.piped s)) => [(some i, s)]
  | _ => []

section

variable (i : Nat) (h : Half)

def opens : Happening → List Stream
  | opened j side (.ok s) => if j = i ∧ side = h then [s] else []
  | _ => []

def accepts : Happening → List Stream
  | accepted j side (.done (.ok s)) => if j = i ∧ side = h then [s] else []
  | _ => []

def sends : Happening → List (List UInt8)
  | sent j side payload (.ok ()) => if j = i ∧ side = h then [payload] else []
  | _ => []

def receives : Happening → List (List UInt8)
  | received j side (.done (.ok payload)) => if j = i ∧ side = h then [payload] else []
  | _ => []

@[simp] theorem accepts_ready (j : Nat) (side : Half) (s : Stream) :
    (accepted j side (.ready s)).accepts i h = if j = i ∧ side = h then [s] else [] := rfl

@[simp] theorem receives_ready (j : Nat) (side : Half) (payload : List UInt8) :
    (received j side (.ready payload)).receives i h =
      if j = i ∧ side = h then [payload] else [] := rfl

def closes : Happening → Bool
  | closed j _ => j = i
  | _ => false

end

def leaves (s : Socket) : Happening → Bool
  | left j side => .session j side = s
  | _ => false

section

variable (k : Nat) (h : Half)

/-- The bytes that an end of a stream accepts to write. -/
def writes : Happening → List UInt8
  | used s (.write payload) (some (.written count)) =>
      if s.end? = some (k, h) then payload.take count else []
  | _ => []

def reads : Happening → List UInt8
  | used s (.read _) (some (.data bytes)) => if s.end? = some (k, h) then bytes else []
  | _ => []

def shuts : Happening → Bool
  | used s .shutdown (some .done) => s.end? = some (k, h)
  | _ => false

/-- Whether an end of a stream is closed, or fails to read or to write. -/
def hurts : Happening → Bool
  | used s (.read _) (some (.failed _)) | used s (.write _) (some (.failed _))
  | closedStream s => s.pipe? = some k
  | _ => false

end

/-- The session that something happens on. -/
def session? : Happening → Option Nat
  | pairedSockets _ i | opened i _ _ | accepted i _ _ | sent i _ _ _ | received i _ _ | closed i _
  | left i _ => some i
  | pairedStreams .. | used .. | closedStream _ | dropped _ | released => none

/-- The pipe of a stream that something is done with. -/
def pipe? : Happening → Option Nat
  | used s _ _ | closedStream s | dropped s => s.pipe?
  | _ => none

def drops (s : Stream) : Happening → Bool
  | dropped t => t = s
  | _ => false

end Happening

/-- Something that the program does, or a release of what nobody holds. A call that has to wait is
made again. -/
inductive Act
  | pairSockets (capacity : Nat) (dialing accepting : Address) (dial? : Option MemoryDial)
  | pairStreams (capacity : Nat) (number : UInt64) (first second : Address)
  | openStream (session : Nat) (half : Half)
  | accept (session : Nat) (half : Half)
  | send (session : Nat) (half : Half) (payload : List UInt8)
  | receive (session : Nat) (half : Half)
  | close (session : Nat) (half : Half)
  | leave (session : Nat) (half : Half)
  | use (stream : Stream) (op : ByteOp)
  | closeStream (stream : Stream)
  | drop (stream : Stream)
  | release

namespace Act

/-- The pipe of a stream that something is done with. -/
def pipe? : Act → Option Nat
  | use s _ | closeStream s | drop s => s.pipe?
  | _ => none

/-- What an act does to the network, given what the program holds, and how it is remembered. -/
def perform (roots : List Holding) (n : Network) : Act → Happening × Network
  | pairSockets capacity dialing accepting dial? =>
      let (i, n) := n.newSession capacity dialing accepting dial?
      (.pairedSockets capacity i, n)
  | pairStreams capacity number first second =>
      let (signal, n) := n.newRoot
      let ((s, peer), n) := n.pairStreams capacity signal number first second
      (.pairedStreams capacity s peer, n)
  | openStream i h =>
      let (r, n) := Network.openOnSession i h n
      (.opened i h r, n)
  | accept i h =>
      let (r, n) := Network.acceptStream (.session i h) n
      (.accepted i h r, n)
  | send i h payload =>
      let (r, n) := Network.sendDatagram (.session i h) payload n
      (.sent i h payload r, n)
  | receive i h =>
      let (r, n) := Network.receiveDatagram (.session i h) n
      (.received i h r, n)
  | close i h => (.closed i h, Network.closeSocket (.session i h) n)
  | leave i h => (.left i h, n)
  | use s op =>
      let (r, n) := op.perform (Network.bytes s) n
      (.used s op r, n)
  | closeStream s => (.closedStream s, Network.closeStream s n)
  | drop s => (.dropped s, n)
  | release => (.released, (n.release? roots).getD n)

end Act

section

variable (l : List Happening)

/-- The ends of sessions that the program has. -/
def sockets : List Socket :=
  (l.flatMap Happening.sockets).filter fun s => !l.any (·.leaves s)

/-- The ends of streams that the program has. -/
def streams : List Stream :=
  (l.flatMap Happening.streams).filter fun s => !l.any (·.drops s)

def roots : List Holding :=
  (sockets l).flatMap Socket.holdings ++ (streams l).flatMap Stream.holdings

def births : List (Option Nat × PipedStream) := l.flatMap Happening.births

end

section

variable (i : Nat) (h : Half) (l : List Happening)

def opened : List Stream := l.flatMap (·.opens i h)

def accepted : List Stream := l.flatMap (·.accepts i h)

def sent : List (List UInt8) := l.flatMap (·.sends i h)

def received : List (List UInt8) := l.flatMap (·.receives i h)

def wasClosed : Bool := l.any (·.closes i)

def written : List UInt8 := l.flatMap (·.writes i h)

def read : List UInt8 := l.flatMap (·.reads i h)

def wasShut : Bool := l.any (·.shuts i h)

def wasHurt : Bool := l.any (·.hurts i)

end

section

variable (l : List Happening) (e : Happening) (i : Nat) (h : Half)

@[simp] theorem births_concat : births (l ++ [e]) = births l ++ e.births := by simp [births]

@[simp] theorem opened_concat : opened i h (l ++ [e]) = opened i h l ++ e.opens i h := by
  simp [opened]

@[simp] theorem accepted_concat : accepted i h (l ++ [e]) = accepted i h l ++ e.accepts i h := by
  simp [accepted]

@[simp] theorem sent_concat : sent i h (l ++ [e]) = sent i h l ++ e.sends i h := by simp [sent]

@[simp] theorem received_concat : received i h (l ++ [e]) = received i h l ++ e.receives i h := by
  simp [received]

@[simp] theorem wasClosed_concat : wasClosed i (l ++ [e]) = (wasClosed i l || e.closes i) := by
  simp [wasClosed]

@[simp] theorem written_concat : written i h (l ++ [e]) = written i h l ++ e.writes i h := by
  simp [written]

@[simp] theorem read_concat : read i h (l ++ [e]) = read i h l ++ e.reads i h := by simp [read]

@[simp] theorem wasShut_concat : wasShut i h (l ++ [e]) = (wasShut i h l || e.shuts i h) := by
  simp [wasShut]

@[simp] theorem wasHurt_concat : wasHurt i (l ++ [e]) = (wasHurt i l || e.hurts i) := by
  simp [wasHurt]

variable {l}

theorem mem_sockets_iff {x : Socket} :
    x ∈ sockets l ↔ (∃ e ∈ l, x ∈ e.sockets) ∧ ∀ e ∈ l, e.leaves x = false := by
  simp [sockets]

theorem mem_streams_iff {x : Stream} :
    x ∈ streams l ↔ (∃ e ∈ l, x ∈ e.streams) ∧ ∀ e ∈ l, e.drops x = false := by
  simp [streams]

end

/-- The network and what has happened so far, the earliest first. -/
structure State where
  network : Network
  history : List Happening

def start : State := ⟨.empty, []⟩

namespace State

/-- Whether the program has what an act is about. -/
def allows (s : State) : Act → Bool
  | .openStream i h | .accept i h | .send i h _ | .receive i h | .close i h | .leave i h =>
      .session i h ∈ sockets s.history
  | .use x _ | .closeStream x | .drop x => x ∈ streams s.history
  | .pairSockets .. | .pairStreams .. | .release => true

def act (s : State) (act : Act) : State :=
  if s.allows act then
    let (e, n) := act.perform (roots s.history) s.network
    ⟨n, s.history ++ [e]⟩
  else s

def run (s : State) (acts : List Act) : State := acts.foldl State.act s

theorem run_append (s : State) (acts more : List Act) :
    s.run (acts ++ more) = (s.run acts).run more :=
  List.foldl_append

theorem run_concat (s : State) (acts : List Act) (a : Act) :
    s.run (acts ++ [a]) = (s.run acts).act a :=
  List.foldl_append

end State

end Paired

end TransportStack
