import Mathlib.Data.List.Forall2
import TransportStack.Proofs.Guarding.Operations
import TransportStack.Proofs.Network.Held
import TransportStack.Proofs.Network.Sessions
import TransportStack.Proofs.Signals

/-!
A demultiplexed dialer over sockets without multiplexing is the dialer beneath it. Each call runs
that dialer once, and all else that it does is to keep books: signals, sockets, links and the cell
with the socket at hand. Its stream is the stream of the dialer with a signal of its own.
-/

namespace TransportStack

open Scenario (ByteOp ByteResult)

/-- The results of operations on the bytes of a stream, until it is said to stop. Anything else may
happen to the network between two operations. -/
def ByteStream.transcript (b : ByteStream Network) (stop : Network → Bool) :
    List (ByteOp ⊕ (Network → Network)) → Network → List (Option ByteResult)
  | [], _ => []
  | .inl op :: rest, n =>
      if stop n then [] else (op.perform b n).1 :: b.transcript stop rest (op.perform b n).2
  | .inr change :: rest, n => if stop n then [] else b.transcript stop rest (change n)

namespace Network

section

variable (inner : Stream) (signal : Signal) (socket? : Option Nat) {n : Network}

end

/-- Only signals that were made have been fired. -/
def Made (n : Network) : Prop := ∀ f ∈ n.signals.fired, f.number < n.signals.count

/-- What leaves a cell alone, and some of the sockets that dial, and does not close those. -/
structure Spares (cell : Nat) (mine : Nat → Prop) (n n' : Network) : Prop where
  cell : n'.rotations[cell]? = n.rotations[cell]?
  sockets : ∀ (i : Nat) (s : DialedSocket), mine i → n.dialed[i]? = some s →
    ∃ s' : DialedSocket, n'.dialed[i]? = some s' ∧ s'.dialer = s.dialer ∧ s'.signal = s.signal ∧
      (n.isFired s.signal = false → n'.isFired s.signal = false)
  made : n.Made → n'.Made

def AtHand (cell : Nat) (n : Network) (i : Nat) : Prop :=
  ∃ r, n.rotations[cell]? = some r ∧ r.connection = some (.dialed i)

/-- Anything else, which has no access to a cell and to the socket at hand in it. -/
def Elsewhere (cell : Nat) (n n' : Network) : Prop := Spares cell (AtHand cell n) n n'

/-- Keeping the books of a cell: signals are made, sockets and links are added, and the cell is
updated. Nothing is fired. -/
structure Books (cell : Nat) (n n' : Network) : Prop where
  rest : n' = { n with
    signals := ⟨n'.signals.count, n.signals.fired⟩
    dialed := n'.dialed
    rotations := n'.rotations
    links := n'.links }
  more : n.signals.count ≤ n'.signals.count
  sockets : ∀ (i : Nat) (s : DialedSocket), n.dialed[i]? = some s →
    ∃ s' : DialedSocket, n'.dialed[i]? = some s' ∧ s'.dialer = s.dialer ∧ s'.signal = s.signal
  others : ∀ j, j ≠ cell → n'.rotations[j]? = n.rotations[j]?
  links : n.links <+: n'.links

namespace Books

variable {cell : Nat} {n n₁ n₂ : Network}

theorem refl (n : Network) : Books cell n n :=
  ⟨rfl, Nat.le_refl _, fun _ s hs => ⟨s, hs, rfl, rfl⟩, fun _ _ => rfl, List.prefix_refl _⟩

theorem trans (h : Books cell n n₁) (h' : Books cell n₁ n₂) : Books cell n n₂ where
  rest := by
    rw [h'.rest, h.rest]
  more := Nat.le_trans h.more h'.more
  sockets i s hs := by
    obtain ⟨s₁, hs₁, dialer₁, signal₁⟩ := h.sockets i s hs
    obtain ⟨s₂, hs₂, dialer₂, signal₂⟩ := h'.sockets i s₁ hs₁
    exact ⟨s₂, hs₂, dialer₂.trans dialer₁, signal₂.trans signal₁⟩
  others j hj := (h'.others j hj).trans (h.others j hj)
  links := h.links.trans h'.links

theorem fired (h : Books cell n n₁) : n₁.signals.fired = n.signals.fired := by
  rw [h.rest]

theorem isFired (h : Books cell n n₁) (s : Signal) : n₁.isFired s = n.isFired s := by
  simp only [Network.isFired, Signals.isFired, h.fired]

theorem made (h : Books cell n n₁) (made : n.Made) : n₁.Made := by
  intro f hf
  rw [h.fired] at hf
  exact Nat.lt_of_lt_of_le (made f hf) h.more

end Books

/-- A network in which the socket at hand, if there is one, dials with a producer and is open. -/
structure Ready (cell : Nat) (input : Producer) (n : Network) : Prop where
  made : n.Made
  rotation : ∃ r, n.rotations[cell]? = some r ∧ ∀ c, r.connection = some c →
    ∃ i s, c = .dialed i ∧ n.dialed[i]? = some s ∧ s.dialer = input ∧ n.isFired s.signal = false

/-- What a call yields stands for what the dialer beneath has yielded: the same failure, or a stream
that is open, has the same addresses and gives the same results until its signal fires. -/
def Stands (r : Except TransportError Stream × Network)
    (r' : Except TransportError Product × Network) : Prop :=
  match r.1, r'.1 with
  | .error e, .error e' => e = e'
  | .ok s, .ok (.stream inner) =>
      s.localAddress = inner.localAddress ∧ s.remoteAddress = inner.remoteAddress ∧
        r.2.isFired s.signal = false ∧
        ∀ steps n, (bytes s).transcript (·.isFired s.signal) steps n <+:
          (bytes inner).transcript (fun _ => false) steps n
  | _, _ => False

section

variable {cell : Nat} {run : Net Product} {n : Network}

/-- A network with one more socket that dials. -/
def withSocket (n : Network) (input : Producer) : Network :=
  { n with
    signals := { n.signals with count := n.signals.count + 1 }
    dialed := n.dialed ++ [⟨input, n.nextSignal [], none⟩] }

variable {input : Producer}

theorem Ready.elsewhere (ready : Ready cell input n) {n' : Network}
    (other : Elsewhere cell n n') : Ready cell input n' := by
  obtain ⟨r, hr, hold⟩ := ready.rotation
  refine ⟨other.made ready.made, r, other.cell.trans hr, fun c hc => ?_⟩
  obtain ⟨i, s, rfl, hs, same, unfired⟩ := hold c hc
  obtain ⟨s', hs', dialer, signal, still⟩ := other.sockets i s ⟨r, hr, hc⟩ hs
  exact ⟨i, s', rfl, hs', dialer.trans same, by rw [signal]; exact still unfired⟩

/-- What taking a turn of a cell came to. It dialed nothing and closed nothing, not even by letting
go of the socket that was at hand: only books were kept, and nothing got loose. -/
structure Harmless (cell : Nat) (holdings : List Holding) (n : Network)
    (taken : Except TransportError Socket × Network) : Prop where
  socket : ∃ i, taken.1 = .ok (.dialed i)
  books : Books cell n taken.2
  held : ∀ roots, (∀ x ∈ holdings, x ∈ roots) → n.release? roots = none →
    taken.2.release? roots = none

end

section

variable {cell : Nat} {run : Net Product} {n m : Network} {input : Producer}
  {steps : List (Network × Network)}

theorem Elsewhere.refl (cell : Nat) (n : Network) : Elsewhere cell n n :=
  ⟨rfl, fun _ s _ hs => ⟨s, hs, rfl, rfl, id⟩, id⟩

/-- Following the producer of such a dialer is one of its calls. -/
theorem dial_demultiplexed (cell : Nat) (c : Category) (p : Parameters) (input : Producer) :
    dial (.rotating cell (.onTop c .nomux p input)) =
      Product.stream <$> rotate cell (dial (.onTop c .nomux p input)) (dial input) :=
  rfl

end

end Network

end TransportStack
