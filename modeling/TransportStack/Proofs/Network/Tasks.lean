import TransportStack.Network.Listen
import TransportStack.Proofs.FanIn.Line

/-!
The tasks of the demultiplexed listeners, one step of one task at a time. A worker accepts a stream
and offers it to the queue, in one step or in two.
-/

namespace TransportStack.Network

/-- A step of one task of a demultiplexed listener, unless it has to wait: of the worker with a
number, or of the task that accepts connections. -/
def taskStep? (n : Network) (i : Nat) (worker? : Option Nat) : Option Network := do
  let d ← n.demuxers[i]?
  let p := supply (acceptOnMuxListener d.listener) d.shutdown
  let (fan, n) ← match worker? with
    | none => d.fan.acceptorStep? p n
    | some worker => do
        let c ← d.fan.connection? worker
        d.fan.workerStep? p worker c n
  return { n with demuxers := n.demuxers.modify i fun d => { d with fan := fan } }

/-- The stream that a worker accepts, unless it waits for room, or has to wait for a stream, or
ends. -/
def receive? (n : Network) (i worker : Nat) : Option (Stream × Network) := do
  let d ← n.demuxers[i]?
  let c ← d.fan.connection? worker
  let p := supply (acceptOnMuxListener d.listener) d.shutdown
  if p.isShut n || d.fan.isParked worker then none
  else
    match p.acceptStream c n with
    | (.done (.ok s), n) => some (s, n)
    | _ => none

theorem receive?_eq_some {n n' : Network} {i worker : Nat} {s : Stream}
    (h : n.receive? i worker = some (s, n')) :
    ∃ d c, n.demuxers[i]? = some d ∧ d.fan.connection? worker = some c ∧
      n.isFired d.shutdown = false ∧ acceptStream c n = (.done (.ok s), n') := by
  simp only [receive?, Option.bind_eq_bind, Option.bind_eq_some_iff] at h
  obtain ⟨d, hd, c, hc, h⟩ := h
  split at h
  · cases h
  · rename_i waits
    rw [Bool.not_eq_true, Bool.or_eq_false_iff] at waits
    split at h
    · rename_i accepted
      cases h
      exact ⟨d, c, hd, hc, waits.1, accepted⟩
    · cases h

def offer (n : Network) (i worker : Nat) (s : Stream) : Network :=
  { n with demuxers := n.demuxers.modify i fun d => { d with fan := d.fan.offer worker s } }

end TransportStack.Network
