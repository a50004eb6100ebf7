import TransportStack.Uri.DomainName.Direction
import TransportStack.Uri.DomainName.Label

/-!
Domain names in ASCII. The characters are folded and composed, and each label is written in ASCII.
-/

namespace TransportStack.Uri.DomainName

open TransportStack.Text

def toAscii? (cs : List Char) : Option (List Char) := do
  let name := composed (← cs.mapM fold?).flatten
  if name.any isForbidden then none
  else
    let labels ← (pieces '.' name).mapM Label.read?
    if keepDirections (labels.map Label.chars) then
      some (joinPieces '.' (labels.map Label.ascii))
    else none

end TransportStack.Uri.DomainName
