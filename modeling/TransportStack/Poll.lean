/-!
One look at an operation that may have to wait.
-/

namespace TransportStack

/-- What a look at an operation shows. -/
inductive Poll (ε α : Type)
  /-- It has to wait; nothing has been changed. -/
  | pending
  | done (result : Except ε α)

namespace Poll

variable {ε ε' α β : Type}

def ready (a : α) : Poll ε α := done (.ok a)

def failed (e : ε) : Poll ε α := done (.error e)

def map (f : α → β) : Poll ε α → Poll ε β
  | pending => pending
  | done r => done (r.map f)

def mapError (f : ε → ε') : Poll ε α → Poll ε' α
  | pending => pending
  | done r => done (r.mapError f)

end Poll

end TransportStack
