import TransportStack.Pipe
import TransportStack.Scenario.ByteOp
import TransportStack.Signal

/-!
Operations on byte streams that have to wait are looked at again when something happens at a place
that they watch: bytes arrive, there is room, or a guard is closed. Each place has one watcher at
most. A guard notices the last operation that has gone through it, also when that one has ended at
once, so those that came before are not noticed there any more. The end of a pipe notices the last
operation that had to wait at it.
-/

namespace TransportStack.Scenario

inductive Place
  /-- The guard with a signal; two halves of a pipe have guards of their own with one signal. -/
  | guard (signal : Signal) (half? : Option Half)
  | arrival (pipe : Nat) (half : Half)
  | room (pipe : Nat) (half : Half)
  deriving DecidableEq

/-- Whether something has happened at a place, given the pipe that it belongs to. Ending one's own
direction does not count. -/
def Place.hasNews (fired : Signal → Bool) (pipe? : Nat → Option Pipe) : Place → Bool
  | guard signal _ => fired signal
  | arrival i h =>
      (pipe? i).any fun p => !(p.lanes.get h.other).held.isEmpty || (p.lanes.get h.other).ended
  | room i h =>
      (pipe? i).any fun p => (p.lanes.get h).held.length < (p.lanes.get h).capacity || p.released

/-- The way of an operation: the guards, from the outside, and the half of a pipe at the end, if
there is one. -/
structure Way where
  guards : List Place
  half? : Option (Nat × Half)

/-- The guards that an operation goes through, given which signals have fired: it turns back at the
first guard that is closed. Only the operations that move bytes are noticed. -/
def ByteOp.passed (fired : Signal → Bool) (w : Way) : ByteOp → List Place
  | read _ | write _ => w.guards.takeWhile fun p => !p.hasNews fired fun _ => none
  | flush | shutdown => []

def ByteOp.places (w : Way) : ByteOp → List Place
  | read _ => w.guards ++ (w.half?.map fun h => Place.arrival h.1 h.2).toList
  | write _ => w.guards ++ (w.half?.map fun h => Place.room h.1 h.2).toList
  | flush | shutdown => []

/-- The watchers of the places that have one. -/
abbrev Watch (τ : Type) := List (Place × τ)

namespace Watch

variable {τ : Type} [BEq τ]

def clear (w : Watch τ) (ps : List Place) : Watch τ :=
  w.filter fun e => !ps.contains e.1

def come (w : Watch τ) (ps : List Place) (task : τ) : Watch τ :=
  ps.map (fun p => (p, task)) ++ w.clear ps

def news (w : Watch τ) (hasNews : Place → Bool) (task : τ) : List Place :=
  (w.filter fun e => e.2 == task && hasNews e.1).map (·.1)

end Watch

end TransportStack.Scenario
