/-!
Close signals. A signal can be the child of another one; firing a signal also fires its children,
and those that are made later. No signal is ever taken back.
-/

namespace TransportStack

/-- A signal is known by its own number and those of its ancestors, the nearest one first. -/
structure Signal where
  number : Nat
  ancestors : List Nat
  deriving DecidableEq, Repr

def Signal.lineage (s : Signal) : List Nat := s.number :: s.ancestors

/-- The number of signals made so far, and those that were fired themselves. -/
structure Signals where
  count : Nat
  fired : List Signal
  deriving DecidableEq, Repr

namespace Signals

def empty : Signals := ⟨0, []⟩

def isFired (g : Signals) (s : Signal) : Bool :=
  g.fired.any fun f => f.lineage.isSuffixOf s.lineage

def fire (g : Signals) (s : Signal) : Signals :=
  if g.isFired s then g else { g with fired := s :: g.fired }

def make (g : Signals) (ancestors : List Nat) : Signal × Signals :=
  (⟨g.count, ancestors⟩, { g with count := g.count + 1 })

def root (g : Signals) : Signal × Signals := g.make []

def child (g : Signals) (parent : Signal) : Signal × Signals := g.make parent.lineage

end Signals

end TransportStack
