import TransportStack.Proofs.Guarding.Retold
import TransportStack.Proofs.Shutdown.Roles

/-!
What a guard makes of a stream: no difference until its signal fires, and after that a stream that
is not touched any more. An operation that waits when the signal fires ends when it is looked at,
but it is only looked at by itself if its task was the last one to read or write: a guard keeps one
task in mind for both directions, and one that flushes or shuts down not at all.
-/

namespace TransportStack

open Scenario

namespace Network

/-- What is inside all guards of a stream. -/
def innermost : Stream → ByteStream Network
  | .piped s => pipeBytes s.pipe s.half
  | .single inner _ _ => innermost inner
  | .recorded .. => idleBytes

/-- A stream is guarded once for each signal that closes it. -/
theorem bytes_eq_nested (x : Stream) : bytes x = (innermost x).nested (x.signals.map guard) := by
  induction x with
  | piped s => rfl
  | single inner signal socket? ih => exact congrArg (fun b => b.guarded (guard signal)) ih
  | recorded remote number signal => rfl

end Network

namespace Guarding

variable {ω : Type}

/-- Until its signal fires, a guarded stream does what the stream inside does, and only keeps watch.
Once it has fired, nothing inside is touched any more, and of the operations that wait only that of
the task in mind is called. Guards around guards are one guard that closes when any of them does. -/
theorem transparent_then_absorbing (g : Guarding ω) (b : ByteStream ω) (w : ω) :
    (∀ (moves : List g.Move) (m : g.Move),
      let u := (Usage.start w).run g (b.guarded g.toGuard) moves
      g.isFired u.world = false →
        u = (Usage.start w).run g b moves ∧ ¬u.HasFailed ∧
          u.move g (b.guarded g.toGuard) m = (u.move g b m).watched g) ∧
    (∀ moves more : List g.Move,
      let u := (Usage.start w).run g (b.guarded g.toGuard) moves
      g.isFired u.world = true →
        Usage.Absorbed g u (u.run g (b.guarded g.toGuard) more) more ∧
          (u.run g (b.guarded g.toGuard) (u.calls g)).waiting =
            u.waiting.filter fun e => u.minded != some e.1) ∧
    ∀ (gs : List (ByteStream.Guard ω)) (op : ByteOp) (v : ω),
      ((∃ g' ∈ gs, g'.isFired v = true) →
        (op.perform (b.nested gs) v).1 = some op.afterClose ∧
          ∀ b' : ByteStream ω, op.perform (b'.nested gs) v = op.perform (b.nested gs) v) ∧
      ((∀ g' ∈ gs, g'.isFired v = false) →
        let r := op.perform b v
        op.perform (b.nested gs) v =
          (r.1, if op.Fails r.1 then gs.foldr (fun g' v => g'.fire v) r.2 else r.2)) := by
  refine ⟨?_, ?_, ?_⟩
  · intro moves m u unfired
    obtain ⟨same, unfailed⟩ := Usage.run_guarded unfired
    have passed : ¬u.HasFailed := fun failed => unfailed (same ▸ failed)
    exact ⟨same, passed, Usage.move_guarded unfired passed m⟩
  · intro moves more u fired
    have distinct : u.Distinct := Usage.distinct_run w moves
    exact ⟨Usage.absorbed_run fired distinct more, Usage.waiting_calls fired distinct⟩
  · intro gs op v
    exact ⟨ByteStream.perform_nested_of_fired b op, ByteStream.perform_nested_of_unfired b op⟩

/-- A read that waits while others write is not called when the guard closes, and neither is a flush
that waits. -/
theorem overtaken_read_waits_on :
    (GuardRun.start (.pipe (.empty 4) true) false).run
        [.perform false (.read 2), .perform false (.write [97, 98, 99, 100]),
          .perform false (.write [122]), .close, .join 1] =
      [(.waits 1, false), (.result (.written 4), false), (.waits 3, false), (.nothing, true),
        (.stillWaits, true)] ∧
    (GuardRun.start (.scripted ⟨[], [], [], []⟩) false).run
        [.perform false .flush, .close, .join 1] =
      [(.waits 1, false), (.nothing, true), (.stillWaits, true)] :=
  ⟨rfl, rfl⟩

end Guarding

end TransportStack
