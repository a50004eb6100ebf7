import TransportStack.Chain.Recipe
import TransportStack.Demux.FanIn
import TransportStack.Demux.Rotation
import TransportStack.Network.Implementation

/-!
Producers are recipes that are ready to be followed: the demultiplexers in them have got their
state, so all uses of one producer share it.
-/

namespace TransportStack

/-- A recipe whose demultiplexers have got their state. -/
inductive Producer
  | bound (category : Category) (implementation : Implementation) (address : String)
      (parameters : Parameters)
  | onTop (category : Category) (implementation : Implementation) (parameters : Parameters)
      (input : Producer)
  /-- Streams over one connection at a time, which is kept in a cell. -/
  | rotating (cell : Nat) (input : Producer)
  /-- The streams of all connections in a queue of a given capacity. -/
  | gathering (capacity : Nat) (input : Producer)

namespace Producer

/-- Makes a producer of a recipe, given the number of cells that there are already. The limits of
the new cells are listed in their order. -/
def ofRecipe (side : Side) (cells : Nat) : Recipe Implementation → Producer × List Nat
  | .bound c i address p => (.bound c i address p, [])
  | .onTop c i p input =>
      let (input, limits) := ofRecipe side cells input
      (.onTop c i p input, limits)
  | .demux p input =>
      let (input, limits) := ofRecipe side cells input
      match side with
      | .dial =>
          (.rotating (cells + limits.length) input,
            limits ++ [p.positiveCount Rotation.limitKey 1])
      | .listen => (.gathering (FanIn.capacityOf p) input, limits)

def cells : Producer → List Nat
  | bound .. => []
  | onTop _ _ _ input => input.cells
  | rotating cell input => cell :: input.cells
  | gathering _ input => input.cells

end Producer

end TransportStack
