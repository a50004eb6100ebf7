/-!
The two halves of something that connects two parties, and values that come in such pairs.
-/

namespace TransportStack

/-- One of the two halves. The first one is the one that has opened. -/
inductive Half
  | first | second
  deriving DecidableEq, Repr

def Half.other : Half → Half
  | first => second
  | second => first

structure Halves (α : Type) where
  first : α
  second : α
  deriving DecidableEq, Repr

namespace Halves

variable {α : Type}

def both (a : α) : Halves α := ⟨a, a⟩

def get (p : Halves α) : Half → α
  | .first => p.first
  | .second => p.second

def modify (p : Halves α) (h : Half) (f : α → α) : Halves α :=
  match h with
  | .first => { p with first := f p.first }
  | .second => { p with second := f p.second }

def set (p : Halves α) (h : Half) (a : α) : Halves α :=
  p.modify h fun _ => a

end Halves

end TransportStack
