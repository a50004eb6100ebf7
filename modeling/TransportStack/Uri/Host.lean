import TransportStack.Error
import TransportStack.Net.IpReader
import TransportStack.Uri.DomainName
import TransportStack.Uri.Percent

/-!
Hosts of URIs. A host in brackets is an IP address of eight groups. Other hosts are domain names or
IP addresses of four bytes where the scheme is one of the web's, and opaque text elsewhere.
-/

namespace TransportStack.Uri

open TransportStack.Text

/-- A host between brackets, in its short text. -/
def bracketed (cs : List Char) : Except UriError String :=
  match cs.getLast? with
  | some ']' =>
      match Ipv6.read? cs.tail.dropLast with
      | some ip => .ok ("[" ++ ip.renderShort ++ "]")
      | none => .error .invalidIpv6
  | _ => .error .invalidIpv6

def forbiddenInHost : List Char :=
  [Char.ofNat 0, '\t', '\n', '\r', ' ', '#', '/', ':', '<', '>', '?', '@', '[', '\\', ']', '^', '|']

def opaqueHost (cs : List Char) : Except UriError String :=
  if cs.head? = some '[' then bracketed cs
  else if cs.any forbiddenInHost.contains then .error .invalidDomainCharacter
  else .ok (String.ofList (percentEncodeControls cs))

/-- A part of a numeric address: octal after a zero, hexadecimal after `0x`, else decimal. -/
def readPart? (cs : List Char) : Option Nat :=
  match cs with
  | [] => none
  | '0' :: 'x' :: hex | '0' :: 'X' :: hex => readHex 0 hex
  | '0' :: c :: rest =>
      (c :: rest).foldlM
        (fun n c => (digit? c).bind fun d => if d < 8 then some (n * 8 + d) else none) 0
  | _ => readNatural? cs

def dropLastEmpty (ps : List (List Char)) : List (List Char) :=
  match ps.reverse with
  | [] :: p :: rest => (p :: rest).reverse
  | _ => ps

/-- Whether a domain name ends in a number, so that it has to be an address of four bytes. -/
def endsInNumber (cs : List Char) : Bool :=
  match (dropLastEmpty (pieces '.' cs)).getLast? with
  | none | some [] => false
  | some last => last.all (fun c => (digit? c).isSome) || (readPart? last).isSome

/-- The address of numeric parts. The last part fills all bytes that the others leave. -/
def ipv4OfParts? (parts : List Nat) : Option Ipv4 :=
  match parts.reverse with
  | [] => none
  | last :: others =>
      if parts.length > 4 ∨ others.any (· > 255) ∨ last ≥ Nat.pow 256 (4 - others.length) then none
      else
        let high := others.reverse.zipIdx.foldl (fun n p => n + p.1 * Nat.pow 256 (3 - p.2)) 0
        let n := high + last
        some ⟨(n / 0x1000000).toUInt8, (n / 0x10000).toUInt8, (n / 0x100).toUInt8, n.toUInt8⟩

def webHost (cs : List Char) : Except UriError String :=
  if cs.head? = some '[' then bracketed cs
  else
    match DomainName.toAscii? (readUtf8 (percentDecode cs)) with
    | none => .error .invalidDomainName
    | some [] => .error .emptyHost
    | some name =>
        if endsInNumber name then
          match ((dropLastEmpty (pieces '.' name)).mapM readPart?).bind ipv4OfParts? with
          | some ip => .ok ip.render
          | none => .error .invalidIpv4
        else .ok (String.ofList name)

end TransportStack.Uri
