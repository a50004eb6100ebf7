import TransportStack.Text.Blank
import TransportStack.Text.Pieces

/-!
Schemes name the layers of a chain from the bottom up, as in `tcp+tls+yamux`.
-/

namespace TransportStack.Scheme

open TransportStack.Text

def separator : Char := '+'

/-- The names of a scheme, without the blanks around them. -/
def split (scheme : String) : List String :=
  (pieces separator scheme.toList).map fun p => String.ofList (trim p)

def join (names : List String) : String :=
  joinAt separator names

end TransportStack.Scheme
