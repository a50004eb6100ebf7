import TransportStack.Scenario.Results
import TransportStack.Scenario.Watch

/-!
A guarded byte stream under trial, over one end of a pipe or over a stream whose behaviour is
scripted.
-/

namespace TransportStack.Scenario

/-- A stream whose next results are given in advance. What is not given waits. -/
structure ScriptedBytes where
  reads : List (Except IoError (List UInt8))
  writes : List (Except IoError Nat)
  flushes : List (Except IoError Unit)
  shutdowns : List (Except IoError Unit)

namespace ScriptedBytes

def next {α : Type} : List (Except IoError α) → Poll IoError α × List (Except IoError α)
  | [] => (.pending, [])
  | r :: rs => (.done r, rs)

/-- The operations on a scripted stream. A read drops what does not fit. -/
def bytes : ByteStream ScriptedBytes where
  read n s :=
    let (r, rest) := next s.reads
    (r.map (·.take n), { s with reads := rest })
  write payload s :=
    let (r, rest) := next s.writes
    (r.map (min · payload.length), { s with writes := rest })
  flush s :=
    let (r, rest) := next s.flushes
    (r, { s with flushes := rest })
  shutdown s :=
    let (r, rest) := next s.shutdowns
    (r, { s with shutdowns := rest })

end ScriptedBytes

inductive GuardInner
  /-- The first half of a pipe; the flag tells whether somebody still has the other one. -/
  | pipe (pipe : Pipe) (peer : Bool)
  | scripted (stream : ScriptedBytes)

namespace GuardInner

def onStream {α : Type} (onPipe : ByteStream Pipe → Pipe → Poll IoError α × Pipe)
    (onScript : ScriptedBytes → Poll IoError α × ScriptedBytes) (half : Half) :
    GuardInner → Poll IoError α × GuardInner
  | pipe p peer =>
      let (r, p) := onPipe (Pipe.stream half) p
      (r, pipe p peer)
  | scripted s =>
      let (r, s) := onScript s
      (r, scripted s)

def bytes (half : Half) : ByteStream GuardInner where
  read n := onStream (fun b => b.read n) (ScriptedBytes.bytes.read n) half
  write payload := onStream (fun b => b.write payload) (ScriptedBytes.bytes.write payload) half
  flush := onStream (fun b => b.flush) ScriptedBytes.bytes.flush half
  shutdown := onStream (fun b => b.shutdown) ScriptedBytes.bytes.shutdown half

/-- The operations on the other half of the pipe, which wait forever once it is given up. -/
def peerBytes : ByteStream GuardInner where
  read n s := whilePeer s ((bytes .second).read n)
  write payload s := whilePeer s ((bytes .second).write payload)
  flush s := whilePeer s (bytes .second).flush
  shutdown s := whilePeer s (bytes .second).shutdown
where
  whilePeer {α : Type} (s : GuardInner) (op : GuardInner → Poll IoError α × GuardInner) :
      Poll IoError α × GuardInner :=
    match s with
    | pipe _ true => op s
    | s => (.pending, s)

def dropPeer : GuardInner → GuardInner
  | pipe p _ => pipe p.release false
  | s => s

def pipe? : GuardInner → Option Pipe
  | pipe p _ => some p
  | scripted _ => none

def isPipe (s : GuardInner) : Bool := s.pipe?.isSome

end GuardInner

inductive GuardStep
  /-- An operation on the guarded stream, or on the other half of the pipe. -/
  | perform (onPeer : Bool) (op : ByteOp)
  | join (task : Nat)
  | close
  | cancel
  /-- Writes on the stream inside, past the guard. -/
  | innerWrite (payload : List UInt8)
  | isPipe
  | dropPeer

inductive GuardAnswer
  | result (result : ByteResult)
  | waits (task : Nat)
  | stillWaits
  | nothing
  | truth (value : Bool)

/-- The state between the steps of a trial. The guard and the one who made it know the same
signal. -/
structure GuardRun where
  inner : GuardInner
  signals : Signals
  token : Signal
  waiting : List (Nat × Bool × ByteOp)
  watch : Watch Nat
  finished : Results Nat ByteResult
  count : Nat

namespace GuardRun

def guarded : ByteStream GuardRun :=
  ((GuardInner.bytes .first).within GuardRun.inner fun s i => { s with inner := i }).guarded
    { isFired := fun s => s.signals.isFired s.token
      fire := fun s => { s with signals := s.signals.fire s.token } }

def peer : ByteStream GuardRun :=
  GuardInner.peerBytes.within GuardRun.inner fun s i => { s with inner := i }

def perform (onPeer : Bool) (op : ByteOp) (s : GuardRun) : Option ByteResult × GuardRun :=
  op.perform (if onPeer then peer else guarded) s

def way (s : GuardRun) (onPeer : Bool) : Way where
  guards := if onPeer then [] else [.guard s.token none]
  half? := if s.inner.isPipe then some (0, if onPeer then .second else .first) else none

def hasNews (s : GuardRun) : Place → Bool :=
  Place.hasNews s.signals.isFired fun _ => s.inner.pipe?

def look (s : GuardRun) (task : Nat) (onPeer : Bool) (op : ByteOp) : GuardRun :=
  let passed := op.passed s.signals.isFired (s.way onPeer)
  match perform onPeer op s with
  | (some r, s) =>
      { s with
        watch := s.watch.clear passed
        finished := s.finished ++ [(task, r)] }
  | (none, s) =>
      { s with
        watch := s.watch.come (op.places (s.way onPeer)) task
        waiting := s.waiting ++ [(task, onPeer, op)] }

def retry (s : GuardRun) (w : Nat × Bool × ByteOp) : GuardRun :=
  match s.watch.news s.hasNews w.1 with
  | [] => s
  | news =>
      { s with
        watch := s.watch.clear news
        waiting := s.waiting.filter fun v => v.1 != w.1 }.look w.1 w.2.1 w.2.2

def settle (s : GuardRun) : GuardRun := go (s.waiting.length + 1) s
where
  go : Nat → GuardRun → GuardRun
    | 0, s => s
    | k + 1, s => go k (s.waiting.foldl retry s)

def fire (s : GuardRun) : GuardRun := { s with signals := s.signals.fire s.token }

def step (s : GuardRun) : GuardStep → GuardAnswer × GuardRun
  | .perform onPeer op =>
      let task := s.count + 1
      let s := settle (look { s with count := task } task onPeer op)
      match s.finished.take task with
      | (some r, finished) => (.result r, { s with finished })
      | (none, _) => (.waits task, s)
  | .join task =>
      match s.finished.take task with
      | (some r, finished) => (.result r, { s with finished })
      | (none, _) => (.stillWaits, s)
  | .close | .cancel => (.nothing, s.fire.settle)
  | .innerWrite payload =>
      let (r, inner) := (GuardInner.bytes .first).write payload s.inner
      let s := settle { s with inner := inner }
      match r with
      | .done (.ok n) => (.result (.written n), s)
      | .done (.error e) => (.result (.failed e), s)
      | .pending => (.stillWaits, s)
  | .isPipe => (.truth s.inner.isPipe, s)
  | .dropPeer => (.nothing, settle { s with inner := s.inner.dropPeer })

def isFired (s : GuardRun) : Bool := s.signals.isFired s.token

def start (inner : GuardInner) (closed : Bool) : GuardRun :=
  let (token, signals) := Signals.empty.root
  let s : GuardRun := ⟨inner, signals, token, [], [], [], 0⟩
  if closed then s.fire else s

/-- Takes all steps, and tells after each one whether the signal has fired. -/
def run (s : GuardRun) : List GuardStep → List (GuardAnswer × Bool)
  | [] => []
  | step :: steps =>
      let (answer, s) := s.step step
      (answer, s.isFired) :: s.run steps

end GuardRun

end TransportStack.Scenario
