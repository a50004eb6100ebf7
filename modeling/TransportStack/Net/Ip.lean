/-!
IP addresses and their standard text forms.
-/

namespace TransportStack

structure Ipv4 where
  a : UInt8
  b : UInt8
  c : UInt8
  d : UInt8
  deriving DecidableEq, Repr

structure Ipv6 where
  groups : List UInt16
  eight : groups.length = 8
  deriving DecidableEq, Repr

inductive Ip
  | v4 (ip : Ipv4)
  | v6 (ip : Ipv6)
  deriving DecidableEq, Repr

/-- An address with a port. One of eight groups also has the number of the zone in which it means
something, which is zero when it means the same everywhere. -/
inductive SocketAddress
  | v4 (ip : Ipv4) (port : UInt16)
  | v6 (ip : Ipv6) (zone : UInt32) (port : UInt16)
  deriving DecidableEq, Repr

def SocketAddress.ofIp (ip : Ip) (port : UInt16) : SocketAddress :=
  match ip with
  | .v4 ip => v4 ip port
  | .v6 ip => v6 ip 0 port

def Ipv4.render (ip : Ipv4) : String :=
  toString ip.a.toNat ++ "." ++ toString ip.b.toNat ++ "." ++ toString ip.c.toNat ++ "." ++
    toString ip.d.toNat

namespace Ipv6

def renderGroups (gs : List UInt16) : String :=
  ":".intercalate (gs.map fun g => String.ofList (Nat.toDigits 16 g.toNat))

def leadingZeros (gs : List UInt16) : Nat :=
  (gs.takeWhile (· == 0)).length

/-- The start and length of the longest run of zeros, the first one among equals. -/
def zeroRun : List UInt16 → Nat × Nat
  | [] => (0, 0)
  | g :: gs =>
      let here := leadingZeros (g :: gs)
      let later := zeroRun gs
      if later.2 ≤ here then (0, here) else (later.1 + 1, later.2)

/-- The text with the longest run of at least two zeros left out. -/
def renderShort (ip : Ipv6) : String :=
  let run := zeroRun ip.groups
  if 1 < run.2 then
    renderGroups (ip.groups.take run.1) ++ "::" ++ renderGroups (ip.groups.drop (run.1 + run.2))
  else renderGroups ip.groups

def mapped? (ip : Ipv6) : Option Ipv4 :=
  match ip.groups with
  | [0, 0, 0, 0, 0, 0xffff, g, h] =>
      some ⟨(g >>> 8).toUInt8, g.toUInt8, (h >>> 8).toUInt8, h.toUInt8⟩
  | _ => none

/-- The short text, with dots in a mapped address. -/
def render (ip : Ipv6) : String :=
  match ip.mapped? with
  | some v4 => "::ffff:" ++ v4.render
  | none => ip.renderShort

end Ipv6

def Ip.render : Ip → String
  | v4 ip => ip.render
  | v6 ip => ip.render

/-- The text of an address with a port; one of eight groups stands in brackets with its zone, if it
has one. -/
def SocketAddress.render : SocketAddress → String
  | v4 ip port => ip.render ++ ":" ++ toString port.toNat
  | v6 ip zone port =>
      "[" ++ ip.render ++ (if zone = 0 then "" else "%" ++ toString zone.toNat) ++ "]:" ++
        toString port.toNat

end TransportStack
