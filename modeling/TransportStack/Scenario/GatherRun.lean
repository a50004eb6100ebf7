import TransportStack.Demux.FanIn
import TransportStack.Network.Socket
import TransportStack.Scenario.Results

/-!
A demultiplexed listener under trial: what arrives at the listener and on its connections is given
by the steps.
-/

namespace TransportStack.Scenario

structure ArrivingConnection where
  /-- The streams, and failures to accept, that arrive on it. -/
  arrivals : List (Except TransportError UInt64)
  ended : Bool
  signal : Signal
  closeFails : Bool

structure GatherWorld where
  signals : Signals
  listener : Signal
  listenerCloseFails : Bool
  arrivals : List (Except TransportError Nat)
  ended : Bool
  connections : List ArrivingConnection
  shutdown : Signal

namespace GatherWorld

def isFired (w : GatherWorld) (s : Signal) : Bool := w.signals.isFired s

def fire (w : GatherWorld) (s : Signal) : GatherWorld := { w with signals := w.signals.fire s }

def acceptConnection (w : GatherWorld) : Poll TransportError Nat × GatherWorld :=
  if w.isFired w.listener then (.failed .closed, w)
  else
    match w.arrivals with
    | a :: rest => (.done a, { w with arrivals := rest })
    | [] => (if w.ended then .failed .closed else .pending, w)

def acceptStream (k : Nat) (w : GatherWorld) : Poll TransportError Address × GatherWorld :=
  match w.connections[k]? with
  | none => (.failed .closed, w)
  | some c =>
      if w.isFired c.signal then (.failed .closed, w)
      else
        match c.arrivals with
        | a :: rest =>
            (.done (a.map fun number => .muxed (RecordedSocket.address k) number),
              { w with connections := w.connections.set k { c with arrivals := rest } })
        | [] => (if c.ended then .failed .closed else .pending, w)

def isClosed (k : Nat) (w : GatherWorld) : Bool :=
  (w.connections[k]?.map fun c => w.isFired c.signal).getD true

def close (k : Nat) (w : GatherWorld) : GatherWorld :=
  match w.connections[k]? with
  | some c => w.fire c.signal
  | none => w

def supply : FanIn.Supply GatherWorld Nat Address where
  isShut w := w.isFired w.shutdown
  shut w := w.fire w.shutdown
  acceptConnection := acceptConnection
  acceptStream := acceptStream
  isClosed := isClosed
  close := close

def notConnected : TransportError := .io (.ofKind .notConnected)

def closeListener (w : GatherWorld) : Except TransportError Unit × GatherWorld :=
  (if w.listenerCloseFails then .error notConnected else .ok (), w.fire w.listener)

def onConnection (w : GatherWorld) (k : Nat) (f : ArrivingConnection → ArrivingConnection) :
    GatherWorld :=
  { w with connections := w.connections.modify k f }

end GatherWorld

inductive GatherStep
  | connect (streams : List UInt64) (closeFails : Bool)
  | send (connection : Nat) (streams : List UInt64)
  | streamError (connection : Nat) (cause : TransportError)
  | endConnection (connection : Nat)
  | closeConnection (connection : Nat)
  | listenerError (cause : TransportError)
  | endListener
  | closeListener
  | accept
  | join (task : Nat)
  | close
  | address
  | drop

inductive GatherAnswer
  | accepted (remote : Address)
  | failed (cause : TransportError)
  | waits (task : Nat)
  | stillWaits
  | done
  | truth
  | truths (count : Nat)
  | address (address : Address)
  | nothing

structure GatherView where
  answer : GatherAnswer
  shutdown : Bool
  listenerClosed : Bool
  closed : List Bool
  queued : Nat
  tasks : Nat
  dropped : Bool

structure GatherRun where
  fan : FanIn Nat Address
  world : GatherWorld
  waiting : List Nat
  finished : Results Nat (Except TransportError Address)
  count : Nat
  dropped : Bool

namespace GatherRun

def retry (s : GatherRun) (task : Nat) : GatherRun :=
  match s.fan.accept GatherWorld.supply s.world with
  | (.pending, _) => { s with waiting := s.waiting ++ [task] }
  | (.done r, fan) => { s with fan := fan, finished := s.finished ++ [(task, r)] }

/-- More steps than can be taken before everything waits. -/
def patience (s : GatherRun) : Nat :=
  4 * (s.world.connections.foldl (fun n c => n + c.arrivals.length + 2)
    (s.world.arrivals.length + s.waiting.length + s.fan.workers.length + 2))

/-- Lets the tasks and those who wait go on until everything waits. -/
def settle (s : GatherRun) : GatherRun := go s.patience s
where
  go : Nat → GatherRun → GatherRun
    | 0, s => s
    | k + 1, s =>
        let tasks := s.waiting
        let s := tasks.foldl retry { s with waiting := [] }
        match s.fan.step? GatherWorld.supply s.world with
        | some (fan, world) => go k { s with fan, world }
        | none => s

def answerOf : Except TransportError Address → GatherAnswer
  | .ok a => .accepted a
  | .error e => .failed e

def closingOf : Except TransportError Unit → GatherAnswer
  | .ok () => .done
  | .error e => .failed e

def change (s : GatherRun) (f : GatherWorld → GatherWorld) : GatherRun :=
  settle { s with world := f s.world }

def step (s : GatherRun) : GatherStep → GatherAnswer × GatherRun
  | .connect streams closeFails =>
      (.truth, s.change fun w =>
        let (signal, signals) := w.signals.root
        { w with
          signals := signals
          connections := w.connections ++ [⟨streams.map .ok, false, signal, closeFails⟩]
          arrivals := w.arrivals ++ [.ok w.connections.length] })
  | .send k streams =>
      (.truths streams.length, s.change fun w =>
        w.onConnection (k - 1) fun c => { c with arrivals := c.arrivals ++ streams.map .ok })
  | .streamError k e =>
      (.truth, s.change fun w =>
        w.onConnection (k - 1) fun c => { c with arrivals := c.arrivals ++ [.error e] })
  | .endConnection k =>
      (.nothing, s.change fun w => w.onConnection (k - 1) fun c => { c with ended := true })
  | .closeConnection k =>
      let fails := (s.world.connections[k - 1]?.map (·.closeFails)).getD true
      (closingOf (if fails then .error GatherWorld.notConnected else .ok ()),
        s.change (GatherWorld.close (k - 1)))
  | .listenerError e => (.truth, s.change fun w => { w with arrivals := w.arrivals ++ [.error e] })
  | .endListener => (.nothing, s.change fun w => { w with ended := true })
  | .closeListener => (closingOf s.world.closeListener.1, s.change fun w => w.closeListener.2)
  | .accept =>
      let task := s.count + 1
      let s := settle { s with count := task, waiting := s.waiting ++ [task] }
      match s.finished.take task with
      | (some r, finished) => (answerOf r, { s with finished })
      | (none, _) => (.waits task, s)
  | .join task =>
      match s.finished.take task with
      | (some r, finished) => (answerOf r, { s with finished })
      | (none, _) => (.stillWaits, s)
  | .close =>
      let r := s.world.closeListener.1
      let s := s.change fun w => (w.fire w.shutdown).closeListener.2
      match s.fan.closing r with
      | .done r => (closingOf r, s)
      | .pending => (.stillWaits, s)
  | .address => (.address (.empty "mockl"), s)
  | .drop => (.nothing, { s.change fun w => w.fire w.shutdown with dropped := true })

def view (s : GatherRun) (answer : GatherAnswer) : GatherView where
  answer := answer
  shutdown := s.world.isFired s.world.shutdown
  listenerClosed := s.world.isFired s.world.listener
  closed := s.world.connections.map fun c => s.world.isFired c.signal
  queued := s.fan.queue.length
  tasks := s.fan.tasks
  dropped := s.dropped

def start (capacity : Nat) (listenerCloseFails : Bool) : GatherRun :=
  let (listener, signals) := Signals.empty.root
  let (shutdown, signals) := signals.child listener
  ⟨.start capacity, ⟨signals, listener, listenerCloseFails, [], false, [], shutdown⟩, [], [], 0,
    false⟩

def run (s : GatherRun) : List GatherStep → List GatherView
  | [] => []
  | step :: steps =>
      let (answer, s) := s.step step
      s.view answer :: s.run steps

end GatherRun

end TransportStack.Scenario
