import TransportStack.Halves
import TransportStack.Memory.Session
import TransportStack.Net.Address
import TransportStack.Signal

/-!
Streams, as those who hold them see them. What changes while a stream lives is kept by the network.
-/

namespace TransportStack

structure PipedStream where
  pipe : Nat
  half : Half
  signal : Signal
  /-- The number of the stream in its session, or zero. -/
  number : UInt64
  localAddress : Address
  remoteAddress : Address
  dial? : Option MemoryDial
  deriving DecidableEq, Repr

inductive Stream
  | piped (stream : PipedStream)
  /-- The only stream of a connection, with a signal of its own and the socket that dialed it. -/
  | single (inner : Stream) (signal : Signal) (socket? : Option Nat)
  /-- A stream that is only written down. -/
  | recorded (remote : Address) (number : UInt64) (signal : Signal)
  deriving DecidableEq, Repr

namespace Stream

def signal : Stream → Signal
  | piped s => s.signal
  | single _ signal _ => signal
  | recorded _ _ signal => signal

def number : Stream → UInt64
  | piped s => s.number
  | single .. => 0
  | recorded _ number _ => number

def localAddress : Stream → Address
  | piped s => s.localAddress
  | single inner _ _ => inner.localAddress
  | recorded .. => .empty "mock"

def remoteAddress : Stream → Address
  | piped s => s.remoteAddress
  | single inner _ _ => inner.remoteAddress
  | recorded remote _ _ => remote

def canRedial : Stream → Bool
  | piped s => s.dial?.isSome
  | single _ _ socket? => socket?.isSome
  | recorded .. => false

end Stream

end TransportStack
