import TransportStack.Layer.Category
import TransportStack.Registry

/-!
A catalogue has one registry of implementations for each category of layers.
-/

namespace TransportStack

structure Catalogue (ι : Type) where
  registry : Category → Registry ι

namespace Catalogue

variable {ι : Type}

def new : Catalogue ι := ⟨fun _ => .new⟩

def modify (k : Catalogue ι) (c : Category) (f : Registry ι → Registry ι) : Catalogue ι :=
  ⟨fun c' => if c' = c then f (k.registry c') else k.registry c'⟩

def register (k : Catalogue ι) (c : Category) (name : String) (i : ι) : Catalogue ι :=
  k.modify c fun r => r.register name i

def unregister (k : Catalogue ι) (c : Category) (name : String) : Catalogue ι :=
  k.modify c fun r => r.unregister name

def find? (k : Catalogue ι) (c : Category) (name : String) : Option ι :=
  (k.registry c).find? name

/-- The categories that are multiplexers on their own, in the order in which they are tried. -/
def solutions : List Category := [.addrSolution, .streamSolution, .packetSolution]

def plainCategories : List Category :=
  [.packetObfuscator, .streamObfuscator, .packetAdapter, .streamAdapter, .streamConn, .packetConn]

def eligible (withSolutions : Bool) : List Category :=
  if withSolutions then solutions ++ plainCategories else plainCategories

/-- The first category, in the order of trial, that has a name, and the implementation there. -/
def resolve? (k : Catalogue ι) (withSolutions : Bool) (name : String) : Option (Category × ι) :=
  (eligible withSolutions).findSome? fun c => (k.find? c name).map fun i => (c, i)

end Catalogue

end TransportStack
