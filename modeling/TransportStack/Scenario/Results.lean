/-!
The results of operations that have ended, which can be asked for once.
-/

namespace TransportStack.Scenario

abbrev Results (κ α : Type) := List (κ × α)

def Results.take {κ α : Type} [BEq κ] (rs : Results κ α) (task : κ) : Option α × Results κ α :=
  (rs.lookup task, rs.filter fun r => r.1 != task)

end TransportStack.Scenario
