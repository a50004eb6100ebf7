import TransportStack.Chain.Build
import TransportStack.Network.Implementation

/-!
What recorded implementations write down, and which of their runs are planned to fail.
-/

namespace TransportStack

inductive LogEntry
  | build (name : String) (category : Category) (side : Side) (address : Option String)
      (parameters : Parameters)
  | run (name : String) (category : Category) (side : Side)
  /-- A stream was opened on a socket, both of which are numbered from one. -/
  | opened (name : String) (socket stream : Nat)

structure Rehearsal where
  /-- The numbers of the runs that fail, by name. -/
  faults : Dict (List Nat)
  runs : Dict Nat
  log : List LogEntry

namespace Rehearsal

def empty : Rehearsal := ⟨.empty, .empty, []⟩

def note (r : Rehearsal) (e : LogEntry) : Rehearsal := { r with log := r.log ++ [e] }

def fault (name : String) : TransportError :=
  .io ⟨.connectionRefused, some ("mock failure in " ++ name)⟩

def run (r : Rehearsal) (name : String) (c : Category) (side : Side) :
    Except TransportError Unit × Rehearsal :=
  let count := (r.runs.get? name).getD 0 + 1
  let planned := (r.faults.get? name).getD []
  let r := { r with runs := r.runs.insert name count }.note (.run name c side)
  (if planned.contains count then .error (fault name) else .ok (), r)

end Rehearsal

/-- The entry of a call; only recorded implementations write it down. -/
def LogEntry.ofCall? (c : Call Implementation) : Option LogEntry :=
  match c.implementation with
  | .recorded name => some (.build name c.category c.side c.address c.parameters)
  | _ => none

def refusals (plan : Dict TransportError) (c : Call Implementation) : Option TransportError :=
  match c.implementation with
  | .recorded name => plan.get? name
  | _ => none

end TransportStack
