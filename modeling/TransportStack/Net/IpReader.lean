import TransportStack.Net.Ip
import TransportStack.Text.Decimal
import TransportStack.Text.Pieces

/-!
Reading the standard text forms of IP addresses.
-/

namespace TransportStack

open TransportStack.Text

def hexDigit? (c : Char) : Option Nat :=
  if '0' ≤ c ∧ c ≤ '9' then some (c.toNat - '0'.toNat)
  else if 'a' ≤ c ∧ c ≤ 'f' then some (c.toNat - 'a'.toNat + 10)
  else if 'A' ≤ c ∧ c ≤ 'F' then some (c.toNat - 'A'.toNat + 10)
  else none

/-- The value of hexadecimal digits after those that make up `value`. -/
def readHex (value : Nat) : List Char → Option Nat
  | [] => some value
  | c :: cs => (hexDigit? c).bind fun d => readHex (value * 16 + d) cs

def readByte? (cs : List Char) : Option UInt8 :=
  match cs with
  | '0' :: _ :: _ => none
  | _ => (readNatural? cs).bind fun n => if n < 256 then some n.toUInt8 else none

def Ipv4.read? (cs : List Char) : Option Ipv4 :=
  match (pieces '.' cs).map readByte? with
  | [some a, some b, some c, some d] => some ⟨a, b, c, d⟩
  | _ => none

namespace Ipv6

def readGroup? (cs : List Char) : Option UInt16 :=
  if cs.isEmpty || cs.length > 4 then none else (readHex 0 cs).map Nat.toUInt16

def ofIpv4 (ip : Ipv4) : List UInt16 :=
  [ip.a.toUInt16 <<< 8 ||| ip.b.toUInt16, ip.c.toUInt16 <<< 8 ||| ip.d.toUInt16]

/-- Reads the pieces of a row of groups; the last one may have dots if `dotted`. -/
def readPieces? (dotted : Bool) : List (List Char) → Option (List UInt16)
  | [] => some []
  | [p] =>
      match readGroup? p with
      | some g => some [g]
      | none => if dotted then (Ipv4.read? p).map ofIpv4 else none
  | p :: ps => do
      let g ← readGroup? p
      let gs ← readPieces? dotted ps
      pure (g :: gs)

def readRow? (dotted : Bool) (cs : List Char) : Option (List UInt16) :=
  if cs.isEmpty then some [] else readPieces? dotted (pieces ':' cs)

/-- The text before and after the first double colon. -/
def cutDouble : List Char → Option (List Char × List Char)
  | ':' :: ':' :: cs => some ([], cs)
  | c :: cs => (cutDouble cs).map fun r => (c :: r.1, r.2)
  | [] => none

def ofGroups? (gs : List UInt16) : Option Ipv6 :=
  if h : gs.length = 8 then some ⟨gs, h⟩ else none

/-- Reads eight groups. A double colon stands for at least one group of zeros. -/
def read? (cs : List Char) : Option Ipv6 :=
  match cutDouble cs with
  | none => (readRow? true cs).bind ofGroups?
  | some (front, back) => do
      let front ← readRow? false front
      let back ← readRow? true back
      if front.length + back.length < 8 then
        ofGroups? (front ++ List.replicate (8 - (front.length + back.length)) 0 ++ back)
      else none

end Ipv6

def Ip.read? (cs : List Char) : Option Ip :=
  match Ipv4.read? cs with
  | some ip => some (.v4 ip)
  | none => (Ipv6.read? cs).map .v6

def readPort? (cs : List Char) : Option UInt16 :=
  (readNatural? cs).bind fun n => if n < 65536 then some n.toUInt16 else none

def readZone? (cs : List Char) : Option UInt32 :=
  (readNatural? cs).bind fun n => if n < 4294967296 then some n.toUInt32 else none

def Ipv6.readZoned? (cs : List Char) : Option (Ipv6 × UInt32) := do
  match cutLast '%' cs with
  | some (ip, zone) => return (← read? ip, ← readZone? zone)
  | none => return (← read? cs, 0)

def SocketAddress.read? (s : String) : Option SocketAddress := do
  let (host, port) ← cutLast ':' s.toList
  let port ← readPort? port
  match host with
  | '[' :: rest =>
      match rest.getLast? with
      | some ']' => (Ipv6.readZoned? rest.dropLast).map fun (ip, zone) => .v6 ip zone port
      | _ => none
  | _ => (Ipv4.read? host).map fun ip => .v4 ip port

end TransportStack
