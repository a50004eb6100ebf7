import TransportStack.Error
import TransportStack.Parameters.Values

/-!
The dialing side of a demultiplexer opens its streams over one multiplexed connection at a time. It
dials a new connection on every `limit`-th call, when there is none yet, and when the one at hand is
closed. The counter of calls goes on when a call fails.
-/

namespace TransportStack

/-- The connection at hand and the number of calls since the last turn. -/
structure Rotation (κ : Type) where
  /-- After how many calls a new connection is dialed; at least one. -/
  limit : Nat
  connection : Option κ
  calls : Nat
  deriving Repr

namespace Rotation

variable {κ σ ω : Type}

def limitKey : String := "streamsperconn"

def start (limit : Nat) : Rotation κ := ⟨max limit 1, none, 0⟩

def ofParameters (p : Parameters) : Rotation κ := start (p.positiveCount limitKey 1)

/-- Begins a call: after `limit` calls the counter starts anew. -/
def begin (r : Rotation κ) : Rotation κ := { r with calls := r.calls % r.limit }

/-- The connection on which a call that has begun can open its stream, unless it has to dial. -/
def reusable? (r : Rotation κ) (isClosed : κ → Bool) : Option κ :=
  if r.calls = 0 then none else r.connection.filter fun c => !isClosed c

def hold (r : Rotation κ) (c : κ) : Rotation κ := { r with connection := some c }

def finish (r : Rotation κ) : Rotation κ := { r with calls := r.calls + 1 }

structure Dialer (ω κ σ : Type) where
  isClosed : κ → ω → Bool
  dial : ω → Except TransportError κ × ω
  openStream : κ → ω → Except TransportError σ × ω

def call (d : Dialer ω κ σ) (r : Rotation κ) (w : ω) :
    Except TransportError σ × Rotation κ × ω :=
  let r := r.begin
  match r.reusable? (d.isClosed · w) with
  | some c =>
      let (stream, w) := d.openStream c w
      (stream, r.finish, w)
  | none =>
      match d.dial w with
      | (.error e, w) => (.error e, r.finish, w)
      | (.ok c, w) =>
          let (stream, w) := d.openStream c w
          (stream, (r.hold c).finish, w)

end Rotation

end TransportStack
