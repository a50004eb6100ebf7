/-!
What stands between two layers of a chain: first an address, later a producer of packets, of
streams or of multiplexed connections.
-/

namespace TransportStack

/-- The four kinds of intermediate results of a chain. -/
inductive Shape
  | address | packet | stream | muxed
  deriving DecidableEq, Repr

namespace Shape

def text : Shape → String
  | address => "address"
  | packet => "packet"
  | stream => "stream"
  | muxed => "multiplexed"

def name : Shape → String
  | address => "Addr"
  | packet => "Packet"
  | stream => "Stream"
  | muxed => "Muxed"

end Shape

end TransportStack
