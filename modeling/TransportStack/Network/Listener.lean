import TransportStack.Network.Socket

/-!
Listeners, and what following a producer yields.
-/

namespace TransportStack

mutual

inductive StreamListener
  | memory (binding : Nat)
  /-- The streams of all connections of another listener, with a shutdown signal. -/
  | gathered (cell : Nat) (shutdown : Signal) (inner : MuxListener)
  /-- A listener at which nothing arrives. -/
  | idle (signal : Signal)

inductive MuxListener
  | memory (binding : Nat)
  /-- Every connection of a listener for streams as a socket. -/
  | single (inner : StreamListener)
  | idle (signal : Signal)

end

inductive Product
  | packet (socket : PacketSocket)
  | stream (stream : Stream)
  | muxed (socket : Socket)
  | streamListener (listener : StreamListener)
  | muxListener (listener : MuxListener)

end TransportStack
