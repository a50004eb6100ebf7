import TransportStack.Proofs.FanIn.Line

/-!
The tasks of a demultiplexed listener and those who accept streams from it, in any order. A worker
may be overtaken between accepting a stream and offering it, and anything may happen beneath the
listener between two moves. Each stream is known by its place among all streams that were accepted,
and there is a record of where it went.
-/

namespace TransportStack.FanIn

/-- A stream that a worker has accepted. -/
structure Arrival (σ : Type) where
  worker : Nat
  place : Nat
  stream : σ

def ofWorker {σ : Type} (worker : Nat) (arrivals : List (Arrival σ)) : List (Arrival σ) :=
  arrivals.filter fun a => a.worker == worker

/-- The state between two moves, with the record of what happened to the streams. -/
structure Gathering (ω κ σ : Type) where
  fan : FanIn κ (Arrival σ)
  world : ω
  /-- The streams that workers have accepted and neither offered nor given up. -/
  inHand : List (Arrival σ)
  accepted : List (Arrival σ)
  offered : List (Arrival σ)
  returned : List (Nat × Arrival σ)
  dropped : List (Arrival σ)

/-- A move of one of the tasks, of a caller, or of something else. -/
inductive Move (ω : Type)
  /-- Something else changes what lies beneath. -/
  | elsewhere (world : ω)
  | acceptConnection
  | stopAccepting
  | acceptStream (worker : Nat)
  | offer (worker : Nat)
  | giveUp (worker : Nat)
  /-- A caller takes a stream. Nothing is asked about the shutdown signal, which may have fired
  since the caller looked at it. -/
  | accept (caller : Nat)

namespace Gathering

variable {ω κ σ : Type}

def start (capacity : Nat) (w : ω) : Gathering ω κ σ := ⟨.start capacity, w, [], [], [], [], []⟩

/-- What was offered and not dropped: what callers got, and what they will get next. -/
def kept (g : Gathering ω κ σ) : List (Arrival σ) := g.returned.map Prod.snd ++ g.fan.line

def held (g : Gathering ω κ σ) (worker : Nat) : List (Arrival σ) :=
  ofWorker worker (g.fan.parked.map Prod.snd ++ g.inHand)

def isBusy (g : Gathering ω κ σ) (worker : Nat) : Bool :=
  g.fan.isParked worker || g.inHand.any fun a => a.worker == worker

variable (p : Supply ω κ σ)

/-- The task that accepts connections accepts one, or fails to and shuts the listener down. -/
def acceptConnection (g : Gathering ω κ σ) : Gathering ω κ σ :=
  if g.fan.accepting then
    match p.acceptConnection g.world with
    | (.pending, _) => g
    | (.done (.ok c), w) => { g with fan := g.fan.assign c, world := w }
    | (.done (.error _), w) => { g with fan := g.fan.stopAccepting, world := p.shut w }
  else g

def stopAccepting (g : Gathering ω κ σ) : Gathering ω κ σ :=
  if p.isShut g.world then { g with fan := g.fan.stopAccepting } else g

/-- A worker that holds nothing accepts a stream, or fails to and leaves. -/
def acceptStream (worker : Nat) (g : Gathering ω κ σ) : Gathering ω κ σ :=
  match g.fan.connection? worker, g.isBusy worker with
  | some c, false =>
      match p.acceptStream c g.world with
      | (.pending, _) => g
      | (.done (.ok s), w) =>
          let a : Arrival σ := ⟨worker, g.accepted.length, s⟩
          { g with world := w, inHand := g.inHand ++ [a], accepted := g.accepted ++ [a] }
      | (.done (.error _), w) =>
          { g with fan := g.fan.leave worker, world := if p.isClosed c w then w else p.close c w }
  | _, _ => g

def offer (worker : Nat) (g : Gathering ω κ σ) : Gathering ω κ σ :=
  match g.inHand.find? fun a => a.worker == worker with
  | some a =>
      { g with
        fan := g.fan.offer worker a
        inHand := g.inHand.filter fun a => a.worker != worker
        offered := g.offered ++ [a] }
  | none => g

def giveUp (worker : Nat) (g : Gathering ω κ σ) : Gathering ω κ σ :=
  match g.fan.connection? worker, p.isShut g.world with
  | some _, true =>
      { g with
        fan := g.fan.leave worker
        inHand := g.inHand.filter fun a => a.worker != worker
        dropped := g.dropped ++ g.held worker }
  | _, _ => g

def accept (caller : Nat) (g : Gathering ω κ σ) : Gathering ω κ σ :=
  match g.fan.take? with
  | some (a, fan) => { g with fan, returned := g.returned ++ [(caller, a)] }
  | none => g

/-- Makes a move; one that cannot be made changes nothing. -/
def move (g : Gathering ω κ σ) : Move ω → Gathering ω κ σ
  | .elsewhere w => { g with world := w }
  | .acceptConnection => g.acceptConnection p
  | .stopAccepting => g.stopAccepting p
  | .acceptStream worker => g.acceptStream p worker
  | .offer worker => g.offer worker
  | .giveUp worker => g.giveUp p worker
  | .accept caller => g.accept caller

def run (g : Gathering ω κ σ) (moves : List (Move ω)) : Gathering ω κ σ := moves.foldl (move p) g

end Gathering

end TransportStack.FanIn
