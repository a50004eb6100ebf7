import TransportStack.Dict
import TransportStack.Text.Pieces
import TransportStack.Text.Blank

/-!
Parameters are a flat dictionary of text values. A key with a dot belongs to the section before its
first dot, all other keys are common to every layer.
-/

namespace TransportStack

open TransportStack.Text

abbrev Parameters := Dict String

namespace Parameters

/-- The beginning that the keys of a section have: its name without the dots at its end, and a
dot. -/
def sectionStart (name : String) : List Char :=
  dropEndWhile (· == '.') name.toList ++ ['.']

def keyWithin? (name key : String) : Option String :=
  (after? (sectionStart name) key.toList).map String.ofList

/-- The values of one section that are not empty, by their keys within it. -/
def within (p : Parameters) (name : String) : Parameters :=
  Dict.ofList (p.entries.filterMap fun e =>
    if e.2 = "" then none else (keyWithin? name e.1).map fun k => (k, e.2))

def common (p : Parameters) : Parameters :=
  p.filter fun k v => !k.toList.contains '.' && v != ""

/-- What the layer with a section sees: the common values, with those of its section laid over
them. -/
def seenBy (p : Parameters) (name : String) : Parameters :=
  p.common.overlay (p.within name)

def combine (p other : Parameters) : Parameters :=
  p.overlay other

/-- The first value of each key that is not empty. -/
def ofPairs (pairs : List (String × String)) : Parameters :=
  Dict.ofList (pairs.filter fun e => e.2 != "").reverse

end Parameters

end TransportStack
