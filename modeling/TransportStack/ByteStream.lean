import TransportStack.Error
import TransportStack.Poll

/-!
Byte streams as operations on a state. A guarded stream is tied to a close signal: it behaves like
the stream inside until the signal fires, and after that it no longer touches it. Failures to read
or write fire the signal; the end of the stream does not, so a peer that has only stopped writing
can still be written to.
-/

namespace TransportStack

structure ByteStream (σ : Type) where
  /-- Reads at most so many bytes; none of them means the end of the stream. -/
  read : Nat → σ → Poll IoError (List UInt8) × σ
  write : List UInt8 → σ → Poll IoError Nat × σ
  flush : σ → Poll IoError Unit × σ
  shutdown : σ → Poll IoError Unit × σ

namespace ByteStream

variable {σ τ : Type}

def within (part : σ → τ) (replace : σ → τ → σ) (b : ByteStream τ) : ByteStream σ where
  read n s := lift s (b.read n (part s))
  write bytes s := lift s (b.write bytes (part s))
  flush s := lift s (b.flush (part s))
  shutdown s := lift s (b.shutdown (part s))
where
  lift {α : Type} (s : σ) (r : Poll IoError α × τ) : Poll IoError α × σ :=
    (r.1, replace s r.2)

structure Guard (σ : Type) where
  isFired : σ → Bool
  fire : σ → σ

/-- Fires the signal when an operation has failed. -/
def Guard.watch {α : Type} (g : Guard σ) (r : Poll IoError α × σ) : Poll IoError α × σ :=
  match r.1 with
  | .done (.error _) => (r.1, g.fire r.2)
  | _ => r

def guarded (g : Guard σ) (b : ByteStream σ) : ByteStream σ where
  read n s := if g.isFired s then (.ready [], s) else g.watch (b.read n s)
  write bytes s :=
    if g.isFired s then (.failed (.ofKind .brokenPipe), s) else g.watch (b.write bytes s)
  flush s := if g.isFired s then (.ready (), s) else b.flush s
  shutdown s := if g.isFired s then (.ready (), s) else b.shutdown s

end ByteStream

end TransportStack
