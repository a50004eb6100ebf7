import TransportStack.ByteStream
import TransportStack.Halves

/-!
Pipes of bytes: two directions, each of which holds a bounded number of bytes that were written and
not yet read. A direction ends when its writer shuts it down or either half is released; what it
holds can still be read.
-/

namespace TransportStack

structure Lane where
  capacity : Nat
  held : List UInt8
  ended : Bool
  deriving DecidableEq, Repr

namespace Lane

def empty (capacity : Nat) : Lane := ⟨capacity, [], false⟩

/-- Writes as many bytes as there is room for. Even nothing cannot be written after the end. -/
def write (l : Lane) (bytes : List UInt8) : Poll IoError Nat × Lane :=
  let room := l.capacity - l.held.length
  if l.ended then (.failed (.ofKind .brokenPipe), l)
  else if bytes.isEmpty then (.ready 0, l)
  else if room = 0 then (.pending, l)
  else (.ready (bytes.take room).length, { l with held := l.held ++ bytes.take room })

def read (l : Lane) (n : Nat) : Poll IoError (List UInt8) × Lane :=
  if n = 0 then (.ready [], l)
  else if l.held.isEmpty then (if l.ended then .ready [] else .pending, l)
  else (.ready (l.held.take n), { l with held := l.held.drop n })

def finish (l : Lane) : Lane := { l with ended := true }

end Lane

/-- A pipe: its directions, by the half that writes on them, and whether a half was given up. -/
structure Pipe where
  lanes : Halves Lane
  released : Bool
  deriving DecidableEq, Repr

namespace Pipe

def empty (capacity : Nat) : Pipe := ⟨.both (.empty capacity), false⟩

def modify (p : Pipe) (h : Half) (f : Lane → Lane) : Pipe :=
  { p with lanes := p.lanes.modify h f }

def read (p : Pipe) (h : Half) (n : Nat) : Poll IoError (List UInt8) × Pipe :=
  let r := (p.lanes.get h.other).read n
  (r.1, p.modify h.other fun _ => r.2)

def write (p : Pipe) (h : Half) (bytes : List UInt8) : Poll IoError Nat × Pipe :=
  let r := (p.lanes.get h).write bytes
  (r.1, p.modify h fun _ => r.2)

def shutdown (p : Pipe) (h : Half) : Pipe := p.modify h Lane.finish

/-- Gives up a half, which ends both directions. -/
def release (p : Pipe) : Pipe :=
  ⟨⟨p.lanes.first.finish, p.lanes.second.finish⟩, true⟩

def stream (h : Half) : ByteStream Pipe where
  read n p := p.read h n
  write bytes p := p.write h bytes
  flush p := (.ready (), p)
  shutdown p := (.ready (), p.shutdown h)

end Pipe

end TransportStack
