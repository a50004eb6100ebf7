import TransportStack.Demux.Rotation
import TransportStack.Network.Socket
import TransportStack.Scenario.Results

/-!
A demultiplexed dialer under trial. The ends of its dials are given in advance, some of them only
after a release. Calls take turns in the order in which they came, and the one whose turn it is
keeps the others waiting while it dials.
-/

namespace TransportStack.Scenario

inductive DialOutcome
  | connected
  | blocked
  | closed
  | failingOpen
  | failed (cause : TransportError)
  deriving DecidableEq

structure DialedConnection where
  opened : Nat
  closed : Bool
  failsNext : Bool

structure DialWorld where
  outcomes : List DialOutcome
  connections : List DialedConnection
  attempts : Nat
  permits : Nat
  begun : Bool

namespace DialWorld

def nextOutcome (w : DialWorld) : DialOutcome := w.outcomes.head?.getD .connected

/-- Counts the dial at hand, once. -/
def countAttempt (w : DialWorld) : DialWorld :=
  if w.begun then w else { w with attempts := w.attempts + 1 }

def connect (w : DialWorld) (closed failsNext : Bool) : Except TransportError Nat × DialWorld :=
  (.ok w.connections.length, { w with connections := w.connections ++ [⟨0, closed, failsNext⟩] })

/-- Dials. A dial that waits for a release takes one. -/
def dial (w : DialWorld) : Except TransportError Nat × DialWorld :=
  let outcome := w.nextOutcome
  let w := { w.countAttempt with outcomes := w.outcomes.drop 1, begun := false }
  match outcome with
  | .connected => w.connect false false
  | .blocked => { w with permits := w.permits - 1 }.connect false false
  | .closed => w.connect true false
  | .failingOpen => w.connect false true
  | .failed e => (.error e, w)

def isClosed (k : Nat) (w : DialWorld) : Bool :=
  (w.connections[k]?.map (·.closed)).getD true

def update (w : DialWorld) (k : Nat) (c : DialedConnection) : DialWorld :=
  { w with connections := w.connections.set k c }

def openStream (k : Nat) (w : DialWorld) : Except TransportError Address × DialWorld :=
  match w.connections[k]? with
  | none => (.error .closed, w)
  | some c =>
      if c.closed then (.error .closed, w)
      else if c.failsNext then
        (.error (.io (.ofKind .connectionReset)), w.update k { c with failsNext := false })
      else
        let number := c.opened + 1
        (.ok (.muxed (RecordedSocket.address k) number.toUInt64),
          w.update k { c with opened := number })

def dialer : Rotation.Dialer DialWorld Nat Address where
  isClosed := isClosed
  dial := dial
  openStream := openStream

end DialWorld

/-- A step of the trial; connections are numbered from one. -/
inductive DialStep
  | dial
  | join (task : Nat)
  | release (count : Nat)
  | close (connection : Nat)
  | failOpen (connection : Nat)

inductive DialAnswer
  | opened (remote : Address)
  | failed (cause : TransportError)
  | waits (task : Nat)
  | stillWaits
  | done
  | nothing

def DialAnswer.ofResult : Except TransportError Address → DialAnswer
  | .ok a => .opened a
  | .error e => .failed e

structure DialRun where
  rotation : Rotation Nat
  world : DialWorld
  /-- The calls that have not ended, the one whose turn it is first. -/
  waiting : List Nat
  finished : Results Nat (Except TransportError Address)
  count : Nat

namespace DialRun

/-- Whether the call whose turn it is would have to wait for a release. -/
def isBlocked (s : DialRun) : Bool :=
  (s.rotation.begin.reusable? fun k => s.world.isClosed k).isNone &&
    s.world.nextOutcome == .blocked && s.world.permits == 0

def settle (s : DialRun) : DialRun := go s.waiting s
where
  go : List Nat → DialRun → DialRun
    | [], s => { s with waiting := [] }
    | task :: rest, s =>
        if s.isBlocked then
          { s with waiting := task :: rest, world := { s.world.countAttempt with begun := true } }
        else
          let (r, rotation, world) := s.rotation.call DialWorld.dialer s.world
          go rest { s with rotation, world, finished := s.finished ++ [(task, r)] }

def onConnection (s : DialRun) (k : Nat) (f : DialedConnection → DialedConnection) : DialRun :=
  { s with world := { s.world with connections := s.world.connections.modify (k - 1) f } }

def step (s : DialRun) : DialStep → DialAnswer × DialRun
  | .dial =>
      let task := s.count + 1
      let s := settle { s with count := task, waiting := s.waiting ++ [task] }
      match s.finished.take task with
      | (some r, finished) => (.ofResult r, { s with finished })
      | (none, _) => (.waits task, s)
  | .join task =>
      match s.finished.take task with
      | (some r, finished) => (.ofResult r, { s with finished })
      | (none, _) => (.stillWaits, s)
  | .release n =>
      (.nothing, settle { s with world := { s.world with permits := s.world.permits + n } })
  | .close k => (.done, s.onConnection k fun c => { c with closed := true })
  | .failOpen k => (.nothing, s.onConnection k fun c => { c with failsNext := true })

def start (p : Parameters) (outcomes : List DialOutcome) : DialRun :=
  ⟨.ofParameters p, ⟨outcomes, [], 0, 0, false⟩, [], [], 0⟩

/-- Takes all steps. After each one, the number of dials and that of the streams that were opened on
each connection are told. -/
def run (s : DialRun) : List DialStep → List (DialAnswer × Nat × List Nat)
  | [] => []
  | step :: steps =>
      let (answer, s) := s.step step
      (answer, s.world.attempts, s.world.connections.map (·.opened)) :: s.run steps

end DialRun

end TransportStack.Scenario
