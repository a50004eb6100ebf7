import TransportStack.Network.Construct
import TransportStack.Text.Quoted

/-!
Trials of producers: a producer is followed a number of times, and what it yields is looked at and
given up.
-/

namespace TransportStack.Scenario

open TransportStack

def usualEntries : List (String × Category) :=
  [("tcp", .streamConn), ("mem", .streamConn), ("udp", .packetConn), ("tls", .streamObfuscator),
    ("xor", .packetObfuscator), ("kcp", .streamAdapter), ("spos", .packetAdapter),
    ("nomux", .streamSolution), ("yamux", .streamSolution), ("quic", .packetSolution),
    ("wsmux", .addrSolution)]

inductive Trial
  | failed (cause : TransportError)
  | address (text : String)
  | packet (remote : Address)
  | stream (remote : Address) (number : UInt64)
  /-- A multiplexed connection, on which one stream was opened. -/
  | muxed (remote : Address) (opened : Except TransportError UInt64)
  /-- A listener, which was closed and then asked to accept. -/
  | listener (address : Address) (closedBefore closedAfter : Bool)
      (accepted : Option TransportError)

structure TrialReport where
  shape : Shape
  debug : String
  common : Option Parameters
  trials : List Trial

def debugText (r : Representation Implementation) : String :=
  match r with
  | .address a => "Addr(" ++ Text.quote a ++ ")"
  | r => "Representation(" ++ r.shape.name ++ ")"

def settle (n : Network) (roots : List Holding) : Network :=
  go (n.patience + 1) n
where
  go : Nat → Network → Network
    | 0, n => n
    | k + 1, n =>
        let n := n.advance
        match n.release? roots with
        | none => n
        | some n => go k n

def failureOf? {α : Type} (r : Poll TransportError α) : Option TransportError :=
  match r with
  | .done (.error e) => some e
  | _ => none

def inspect (roots : List Holding) (p : Product) (n : Network) : Trial × Network :=
  match p with
  | .packet s => (.packet s.remoteAddress, n)
  | .stream s => (.stream s.remoteAddress s.number, n)
  | .muxed s =>
      let remote := n.remoteAddress s
      match n.openStream s with
      | (.done r, n) => (.muxed remote (r.map Stream.number), n)
      | (.pending, n) => (.muxed remote (.error .closed), n)
  | .streamListener l =>
      let n := settle n (p.holdings ++ roots)
      let before := n.isStreamListenerClosed l
      let n := settle (Network.closeStreamListener l n) (p.holdings ++ roots)
      let (r, n') := n.acceptOnStreamListener l
      (.listener (l.address n) before (n.isStreamListenerClosed l) (failureOf? r), n')
  | .muxListener l =>
      let n := settle n (p.holdings ++ roots)
      let before := n.isMuxListenerClosed l
      let n := settle (Network.closeMuxListener l n) (p.holdings ++ roots)
      let (r, n') := n.acceptOnMuxListener l
      (.listener (l.address n) before (n.isMuxListenerClosed l) (failureOf? r), n')

def tryOnce (side : Side) (p : Producer) (n : Network) : Trial × Network :=
  match Network.follow side p n with
  | (.error e, n) => (.failed e, settle n p.holdings)
  | (.ok product, n) =>
      let (t, n) := inspect p.holdings product n
      (t, settle n p.holdings)

def tryTimes (side : Side) (p : Producer) : Nat → Network → List Trial × Network
  | 0, n => ([], n)
  | k + 1, n =>
      let (t, n) := tryOnce side p n
      let (ts, n) := tryTimes side p k n
      (t :: ts, n)

def tryResult (side : Side) (r : Representation Implementation) (common : Option Parameters)
    (times : Nat) : Net TrialReport := do
  let trials : List Trial ← match r with
    | .address a => pure (List.replicate times (.address a))
    | .packet recipe | .stream recipe | .muxed recipe => do
        let p ← modifyGet (·.newProducer side recipe)
        let trials ← modifyGet (tryTimes side p times)
        modify fun n => settle n []
        pure trials
  return ⟨r.shape, debugText r, common, trials⟩

/-- The log of an operation and its result; the log begins anew with each operation. -/
def withLog {α : Type} (op : Net α) (n : Network) :
    Except TransportError α × List LogEntry × Network :=
  let (r, n) := op { n with rehearsal := { n.rehearsal with log := [] } }
  (r, n.rehearsal.log, n)

end TransportStack.Scenario
