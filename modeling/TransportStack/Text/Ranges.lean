/-!
Sets of code points as closed intervals.
-/

namespace TransportStack.Text

abbrev Ranges := List (Nat × Nat)

def Ranges.has (rs : Ranges) (c : Char) : Bool :=
  rs.any fun r => r.1 ≤ c.toNat && c.toNat ≤ r.2

end TransportStack.Text
