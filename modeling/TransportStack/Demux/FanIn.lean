import TransportStack.Error
import TransportStack.Parameters.Values
import TransportStack.Poll

/-!
The listening side of a demultiplexer gathers the streams of all its connections in one queue. One
task accepts connections, and for each of them a worker accepts its streams. A worker with a stream
that finds the queue full waits for room before it accepts another one; those that wait get in in
the order in which they came. When the shutdown signal fires, every task ends and what the workers
hold is given up.
-/

namespace TransportStack

structure FanIn (κ σ : Type) where
  /-- How many streams the queue takes; at least one. -/
  capacity : Nat
  queue : List σ
  /-- The streams that wait for room, each with the number of the worker that holds it. -/
  parked : List (Nat × σ)
  workers : List (Nat × κ)
  accepting : Bool
  count : Nat
  deriving Repr

namespace FanIn

variable {κ σ ω : Type}

def capacityKey : String := "backlog"

def capacityOf (p : Parameters) : Nat := p.positiveCount capacityKey 1000

def start (capacity : Nat) : FanIn κ σ := ⟨max capacity 1, [], [], [], true, 0⟩

def assign (f : FanIn κ σ) (c : κ) : FanIn κ σ :=
  { f with workers := f.workers ++ [(f.count, c)], count := f.count + 1 }

/-- A worker offers a stream to the queue, and has to wait when there is no room. -/
def offer (f : FanIn κ σ) (worker : Nat) (s : σ) : FanIn κ σ :=
  if f.queue.length < f.capacity then { f with queue := f.queue ++ [s] }
  else { f with parked := f.parked ++ [(worker, s)] }

def isParked (f : FanIn κ σ) (worker : Nat) : Bool :=
  f.parked.any fun p => p.1 == worker

def leave (f : FanIn κ σ) (worker : Nat) : FanIn κ σ :=
  { f with
    parked := f.parked.filter fun p => p.1 != worker
    workers := f.workers.filter fun p => p.1 != worker }

def stopAccepting (f : FanIn κ σ) : FanIn κ σ := { f with accepting := false }

def promote (f : FanIn κ σ) : FanIn κ σ :=
  match f.parked with
  | [] => f
  | p :: ps => { f with queue := f.queue ++ [p.2], parked := ps }

def take? (f : FanIn κ σ) : Option (σ × FanIn κ σ) :=
  match f.queue with
  | [] => none
  | s :: ss => some (s, promote { f with queue := ss })

def tasks (f : FanIn κ σ) : Nat :=
  f.workers.length + if f.accepting then 1 else 0

/-- Whether all tasks have ended. A call that closes the demultiplexer waits for that. -/
def isQuiet (f : FanIn κ σ) : Bool := f.tasks == 0

/-- What a call that has closed the listener comes to, given how closing the listener ended. -/
def closing (f : FanIn κ σ) (r : Except TransportError Unit) : Poll TransportError Unit :=
  if f.isQuiet then .done r else .pending

structure Supply (ω κ σ : Type) where
  isShut : ω → Bool
  shut : ω → ω
  acceptConnection : ω → Poll TransportError κ × ω
  acceptStream : κ → ω → Poll TransportError σ × ω
  isClosed : κ → ω → Bool
  close : κ → ω → ω

def accept (p : Supply ω κ σ) (f : FanIn κ σ) (w : ω) : Poll TransportError σ × FanIn κ σ :=
  if p.isShut w then (.failed .closed, f)
  else
    match f.take? with
    | some (s, f) => (.ready s, f)
    | none => (.pending, f)

/-- A step of the task that accepts connections, unless it has to wait. A failure to accept shuts
the demultiplexer down. -/
def acceptorStep? (p : Supply ω κ σ) (f : FanIn κ σ) (w : ω) : Option (FanIn κ σ × ω) :=
  if !f.accepting then none
  else if p.isShut w then some (f.stopAccepting, w)
  else
    match p.acceptConnection w with
    | (.pending, _) => none
    | (.done (.ok c), w) => some (f.assign c, w)
    | (.done (.error _), w) => some (f.stopAccepting, p.shut w)

/-- A step of the worker of a connection, unless it has to wait. A failure to accept closes the
connection and ends the worker. -/
def workerStep? (p : Supply ω κ σ) (worker : Nat) (c : κ) (f : FanIn κ σ) (w : ω) :
    Option (FanIn κ σ × ω) :=
  if p.isShut w then some (f.leave worker, w)
  else if f.isParked worker then none
  else
    match p.acceptStream c w with
    | (.pending, _) => none
    | (.done (.ok s), w) => some (f.offer worker s, w)
    | (.done (.error _), w) =>
        some (f.leave worker, if p.isClosed c w then w else p.close c w)

def step? (p : Supply ω κ σ) (f : FanIn κ σ) (w : ω) : Option (FanIn κ σ × ω) :=
  (acceptorStep? p f w).or (f.workers.findSome? fun k => workerStep? p k.1 k.2 f w)

end FanIn

end TransportStack
