import TransportStack.Catalogue
import TransportStack.Error
import TransportStack.Layer.Mask
import TransportStack.Scheme

/-!
Layers are the names of a scheme with the implementations that they stand for. Several layers of a
chain may have the same name; they are told apart by an index that is counted from the top. Names
are resolved in one pass from the top, which counts the occurrences of each name and fills a slot
for each place.
-/

namespace TransportStack

structure Layer (ι : Type) where
  name : String
  category : Category
  implementation : ι
  /-- Tells the layers of one name apart; the uppermost one has index 0. -/
  index : Nat

namespace Layer

variable {ι : Type}

def sectionName (l : Layer ι) : String :=
  l.name ++ "[" ++ toString l.index ++ "]"

def render (l : Layer ι) : String :=
  l.sectionName ++ " (" ++ l.category.name ++ ")"

def debug (l : Layer ι) : String :=
  "LayerImplementation(" ++ l.category.mask.debug ++ ")"

/-- Whether `below` may lie directly beneath the layer; absent at the bottom of a chain. -/
def isCompatibleWith (l : Layer ι) (below : Option (Layer ι)) : Bool :=
  l.category.mask.acceptsBelow ((below.map fun b => b.category.mask).getD .none)

def resolve? (k : Catalogue ι) (withSolutions : Bool) (name : String) (index : Nat) :
    Option (Layer ι) :=
  (k.resolve? withSolutions name).map fun r => ⟨name, r.1, r.2, index⟩

/-- How far names have been resolved: how often each name has come up, and a slot for the layer at
each place. -/
structure Slots (ι : Type) where
  occurrences : Dict Nat
  layers : List (Option (Layer ι))

namespace Slots

def vacant (length : Nat) : Slots ι := ⟨.empty, List.replicate length none⟩

/-- Resolves the name at a place, with the number of its occurrences so far as the index. -/
def fill (k : Catalogue ι) (withSolutions : Bool) (s : Slots ι) (name : String) (place : Nat) :
    Except TransportError (Slots ι) :=
  let index := (s.occurrences.get? name).getD 0
  match resolve? k withSolutions name index with
  | some l => .ok ⟨s.occurrences.insert name (index + 1), s.layers.set place (some l)⟩
  | none => .error (.schemeNotSupported name)

end Slots

/-- Resolves names from the top of the chain downwards. -/
def resolveNames (k : Catalogue ι) (withSolutions : Bool) (names : List String) :
    Except TransportError (List (Layer ι)) := do
  let filled ← names.zipIdx.reverse.foldlM
    (fun (s : Slots ι) (name, place) => s.fill k withSolutions name place) (.vacant names.length)
  pure (filled.layers.filterMap id)

def checkNeighbours : List (Layer ι) → Except TransportError Unit
  | below :: above :: rest =>
      if above.isCompatibleWith (some below) then checkNeighbours (above :: rest)
      else .error (.incompatibleLayers above.render below.render)
  | _ => .ok ()

/-- Resolves a list of names, the lowest one first. -/
def resolve (k : Catalogue ι) (withSolutions enforce : Bool) (names : List String) :
    Except TransportError (List (Layer ι)) :=
  if names.isEmpty || names.any (· == "") then .error (.schemeNotSupported (Scheme.join names))
  else do
    let layers ← resolveNames k withSolutions names
    if enforce then checkNeighbours layers
    pure layers

end Layer

end TransportStack
