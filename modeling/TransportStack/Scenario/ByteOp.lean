import TransportStack.ByteStream

/-!
Single operations on byte streams, and their results.
-/

namespace TransportStack.Scenario

inductive ByteOp
  | read (count : Nat)
  | write (payload : List UInt8)
  | flush
  | shutdown

inductive ByteResult
  | data (bytes : List UInt8)
  | written (count : Nat)
  | done
  | failed (cause : IoError)

def ByteOp.perform {σ : Type} (b : ByteStream σ) : ByteOp → σ → Option ByteResult × σ
  | read n, s => result .data (b.read n s)
  | write payload, s => result .written (b.write payload s)
  | flush, s => result (fun _ => .done) (b.flush s)
  | shutdown, s => result (fun _ => .done) (b.shutdown s)
where
  result {α : Type} (f : α → ByteResult) (r : Poll IoError α × σ) : Option ByteResult × σ :=
    (match r.1 with
      | .pending => none
      | .done (.ok a) => some (f a)
      | .done (.error e) => some (.failed e), r.2)

end TransportStack.Scenario
