import TransportStack.Layer.Category
import TransportStack.Parameters

/-!
A recipe says how a producer is put together: which implementations were asked, with which address
and parameters, and where a demultiplexer turns multiplexed connections into plain streams. Making
a recipe does no input or output; that happens when it is followed.
-/

namespace TransportStack

inductive Side
  | dial | listen
  deriving DecidableEq, Repr

def Side.name : Side → String
  | dial => "client"
  | listen => "server"

inductive Recipe (ι : Type)
  | bound (category : Category) (implementation : ι) (address : String) (parameters : Parameters)
  | onTop (category : Category) (implementation : ι) (parameters : Parameters) (input : Recipe ι)
  | demux (parameters : Parameters) (input : Recipe ι)

def Recipe.shape {ι : Type} : Recipe ι → Shape
  | bound c .. => c.gives
  | onTop c .. => c.gives
  | demux .. => .stream

/-- The kind of producer that a chain is built for; a generic chain leaves it as it comes. -/
inductive ChainKind
  | generic | packet | stream | muxed
  deriving DecidableEq, Repr

/-- What stands between two layers. -/
inductive Representation (ι : Type)
  | address (text : String)
  | packet (recipe : Recipe ι)
  | stream (recipe : Recipe ι)
  | muxed (recipe : Recipe ι)

namespace Representation

variable {ι : Type}

def shape : Representation ι → Shape
  | address _ => .address
  | packet _ => .packet
  | stream _ => .stream
  | muxed _ => .muxed

def ofRecipe (c : Category) (r : Recipe ι) : Representation ι :=
  match c.gives with
  | .packet => packet r
  | .muxed => muxed r
  | .address | .stream => stream r

end Representation

end TransportStack
