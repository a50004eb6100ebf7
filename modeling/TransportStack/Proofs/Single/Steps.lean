import TransportStack.Proofs.Single.Firing

/-!
Sockets without multiplexing and their streams, any number of them, over anything. What becomes of
them is a history: sockets are made, called and closed, dials end, streams are used, closed, given up
and closed along with their connections. Between any two of these steps the rest of the program and
the transports beneath may do whatever does not touch the signals, cells and links of these sockets
and streams themselves; they may well fire the signals of the connections.
-/

namespace TransportStack

open Network
open Scenario (ByteOp ByteResult)

namespace Stream

def connection : Stream → Stream
  | single inner _ _ => inner
  | s => s

def socket? : Stream → Option Nat
  | single _ _ socket? => socket?
  | _ => none

/-- A stream whose signals were all made, and none of them descends from a signal with one of some
numbers. -/
def IsOutside (own : List Nat) (n : Network) (x : Stream) : Prop :=
  ∀ s ∈ x.signals, ∀ k ∈ s.lineage, k < n.signals.count ∧ k ∉ own

end Stream

/-- Only signals that were made have fired, are followed or shut something down. -/
structure Network.IsNumbered (n : Network) : Prop where
  fired : ∀ f ∈ n.signals.fired, f.number < n.signals.count
  links : ∀ l ∈ n.links, l.1.number < n.signals.count
  demuxers : ∀ d ∈ n.demuxers, d.shutdown.number < n.signals.count

namespace Single

/-- What leaves alone the sockets, streams and links whose signals have some numbers, but for the
signals with a cause to fire. -/
structure Keeps (own : List Nat) (cause : Signal → Prop) (n n' : Network) : Prop where
  numbered : n'.IsNumbered
  count : n.signals.count ≤ n'.signals.count
  fired : n.signals.fired ⊆ n'.signals.fired
  causes : ∀ f ∈ n'.signals.fired, f.number ∈ own → f ∈ n.signals.fired ∨ cause f
  dialed : ∀ (i : Nat) (s : DialedSocket), n.dialed[i]? = some s → s.signal.number ∈ own →
    n'.dialed[i]? = some s
  accepted : ∀ (i : Nat) (s : AcceptedSocket), n.accepted[i]? = some s → s.signal.number ∈ own →
    n'.accepted[i]? = some s
  links : ∀ l : Signal × Signal, l.1.number ∈ own → (l ∈ n'.links ↔ l ∈ n.links)
  demuxers : ∀ d ∈ n'.demuxers, d.shutdown.number ∉ own

def Beyond (own : List Nat) (n n' : Network) : Prop := Keeps own (fun _ => False) n n'

/-- What happens to sockets without multiplexing and to their streams. -/
inductive Happening
  /-- A socket that dials was made, by dialing or by redialing another one. -/
  | made (cell : Nat) (signal : Signal) (dialer : Producer)
  /-- An accepted connection was presented as a socket. -/
  | presented (cell : Nat) (signal : Signal) (connection : Stream)
  /-- A stream was asked for at a closed socket that dials. -/
  | refused (cell : Nat)
  /-- A stream was asked for at an open socket that dials, and the dialer started. -/
  | called (cell : Nat)
  /-- A dial ended. -/
  | arrived (cell : Nat) (result : Except TransportError Stream)
  /-- A call looked for the stream of an accepted connection; a call that has to wait looks again. -/
  | looked (cell : Nat) (answer : Poll TransportError Stream)
  | closed (socket : Socket) (signal : Signal)
  | used (stream : Stream) (op : ByteOp) (answer : Option ByteResult)
  | closedStream (stream : Stream)
  /-- A stream closed because its connection was closed. -/
  | followed (stream : Stream)
  /-- What nobody held any more was released, some streams among it. -/
  | released (gone : List Stream)
  | elsewhere

namespace Happening

/-- The numbers of the signals that something makes. -/
def owns : Happening → List Nat
  | made _ signal _ | presented _ signal _ => [signal.number]
  | arrived _ (.ok t) => [t.signal.number]
  | _ => []

def handed? : Happening → Option Stream
  | arrived _ (.ok t) | looked _ (.done (.ok t)) => some t
  | _ => none

def connection? : Happening → Option Stream
  | presented _ _ x => some x
  | arrived _ (.ok t) => some t.connection
  | _ => none

def remote? (i : Nat) : Happening → Option Address
  | arrived j (.ok t) => if j = i then some t.remoteAddress else none
  | _ => none

def returned? (i : Nat) : Happening → Option Stream
  | looked j (.done (.ok t)) => if j = i then some t else none
  | _ => none

/-- Whether something takes the connection out of an accepted socket. -/
def takes (i : Nat) : Happening → Bool
  | looked j (.done (.ok _)) => j == i
  | closed s _ => s == .accepted i
  | _ => false

def isCall (i : Nat) : Happening → Bool
  | called j => j == i
  | _ => false

def isArrival (i : Nat) : Happening → Bool
  | arrived j _ => j == i
  | _ => false

/-- What ends a stream: closing it, a failure to read or to write, and giving it up. -/
def Ends (t : Stream) : Happening → Prop
  | closedStream s => s = t
  | used s op answer => s = t ∧ op.Fails answer
  | released gone => t ∈ gone
  | _ => False

def Fires (e : Happening) (g : Signal) : Prop :=
  (∃ s, e = closed s g) ∨ ∃ t, (e.Ends t ∨ e = followed t) ∧ t.signal = g

end Happening

/-! Histories have the latest first. -/

def own (past : List Happening) : List Nat := past.flatMap Happening.owns

def handed (past : List Happening) : List Stream := past.filterMap Happening.handed?

def returned (i : Nat) (past : List Happening) : List Stream :=
  past.filterMap (Happening.returned? i)

def remote? (i : Nat) (past : List Happening) : Option Address :=
  past.findSome? (Happening.remote? i)

def calls (i : Nat) (past : List Happening) : Nat := past.countP (Happening.isCall i)

def arrivals (i : Nat) (past : List Happening) : Nat := past.countP (Happening.isArrival i)

/-- The second part of opening a stream on a socket that dials, when the dialer has yielded. -/
def arrive (i : Nat) (signal : Signal) (product : Product) : Net Stream :=
  match product with
  | .stream inner => do
      modify fun n => { n with
        dialed := n.dialed.modify i fun s => { s with remote? := some inner.remoteAddress } }
      let own ← modifyGet (·.newChild signal)
      wrap inner own (some i)
  | _ => throw (misfit "dial")

def dialedStream (n : Network) (i : Nat) (signal : Signal) (x : Stream) : Stream :=
  .single x (n.nextSignal signal.lineage) (some i)

def afterArrival (n : Network) (i : Nat) (signal : Signal) (x : Stream) : Network :=
  { n with
    signals := { n.signals with count := n.signals.count + 1 }
    dialed := n.dialed.modify i fun s => { s with remote? := some x.remoteAddress }
    links := n.links ++ [(n.nextSignal signal.lineage, x.signal)] }

theorem arrive_stream (n : Network) (i : Nat) (signal : Signal) (x : Stream) :
    arrive i signal (.stream x) n =
      (.ok (dialedStream n i signal x), afterArrival n i signal x) :=
  rfl

/-- The cells of accepted connections, one of which has no connection any more. -/
def emptied (n : Network) (i : Nat) (signal : Signal) (x : Stream) : List AcceptedSocket :=
  n.accepted.set i ⟨none, signal, x.localAddress, x.remoteAddress⟩

def afterHandOut (n : Network) (i : Nat) (signal : Signal) (x : Stream) : Network :=
  { n with
    accepted := emptied n i signal x
    links := n.links ++ [(signal, x.signal)] }

/-- What can happen after a history, and the network after it. -/
inductive Step (past : List Happening) (n : Network) : Happening → Network → Prop
  | dial {c : Category} {p : Parameters} {q : Producer} {i : Nat} {s : DialedSocket} {n' : Network}
      (dialed : Network.dial (.onTop c .nomux p q) n = (.ok (.muxed (.dialed i)), n'))
      (cell : n'.dialed[i]? = some s) : Step past n (.made i s.signal s.dialer) n'
  | redial {i j : Nat} {s : DialedSocket} {n' : Network}
      (redialed : redialSocket (.dialed j) n = (.ok (.dialed i), n'))
      (cell : n'.dialed[i]? = some s) : Step past n (.made i s.signal s.dialer) n'
  | present {x : Stream} {i : Nat} {s : AcceptedSocket} {n' : Network}
      (outside : x.IsOutside (own past) n) (presented : Network.present x n = (.accepted i, n'))
      (cell : n'.accepted[i]? = some s) : Step past n (.presented i s.signal x) n'
  | refuse {i : Nat} {g : Signal} {q : Producer} (made : .made i g q ∈ past)
      (fired : n.isFired g = true) : Step past n (.refused i) n
  | call {i : Nat} {g : Signal} {q : Producer} (made : .made i g q ∈ past)
      (unfired : n.isFired g = false) : Step past n (.called i) n
  /-- A dial that is under way ends with whatever the dialer yields. -/
  | arrive {i : Nat} {g : Signal} {q : Producer} {product : Except TransportError Product}
      {result : Except TransportError Stream} {n' : Network} (made : .made i g q ∈ past)
      (underway : arrivals i past < calls i past)
      (outside : ∀ x, product = .ok (.stream x) → x.IsOutside (own past) n)
      (arrived : (ofExcept product >>= Single.arrive i g) n = (result, n')) :
      Step past n (.arrived i result) n'
  | look {i : Nat} {g : Signal} {x : Stream} {answer : Poll TransportError Stream} {n' : Network}
      (presented : .presented i g x ∈ past) (looked : openStream (.accepted i) n = (answer, n')) :
      Step past n (.looked i answer) n'
  | closeDialed {i : Nat} {g : Signal} {q : Producer} (made : .made i g q ∈ past) :
      Step past n (.closed (.dialed i) g) (closeSocket (.dialed i) n)
  | closeAccepted {i : Nat} {g : Signal} {x : Stream} (presented : .presented i g x ∈ past) :
      Step past n (.closed (.accepted i) g) (closeSocket (.accepted i) n)
  | use {t : Stream} (has : t ∈ handed past) (op : ByteOp) :
      Step past n (.used t op (op.perform (bytes t) n).1) (op.perform (bytes t) n).2
  | closeStream {t : Stream} (has : t ∈ handed past) :
      Step past n (.closedStream t) (Network.closeStream t n)
  | follow {t : Stream} (has : t ∈ handed past)
      (closed : n.isFired t.connection.signal = true) : Step past n (.followed t) (n.fire t.signal)
  | release {roots : List Holding} {n' : Network} (released : n.release? roots = some n') :
      Step past n
        (.released ((handed past).filter fun t => !(n.held roots).contains (.single t.signal))) n'
  | elsewhere {n' : Network} (beyond : Beyond (own past) n n') : Step past n .elsewhere n'

inductive Reached : List Happening → Network → Prop
  | start {n : Network} (numbered : n.IsNumbered) : Reached [] n
  | step {past : List Happening} {n n' : Network} {e : Happening} (reached : Reached past n)
      (step : Step past n e n') : Reached (e :: past) n'

end Single

end TransportStack
