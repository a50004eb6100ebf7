import TransportStack.Net.IpReader
import TransportStack.Text.Utf8

/-!
Percent encoding, and the pairs of a query.
-/

namespace TransportStack.Uri

open TransportStack.Text

/-- Decodes the bytes written as a percent sign and two hexadecimal digits; a percent sign without
them stands for itself. -/
def percentDecode : List Char → List UInt8
  | [] => []
  | '%' :: h :: l :: rest =>
      match hexDigit? h, hexDigit? l with
      | some h, some l => (h * 16 + l).toUInt8 :: percentDecode rest
      | _, _ => 0x25 :: percentDecode (h :: l :: rest)
  | c :: rest => utf8Char c ++ percentDecode rest

def percentByte (b : UInt8) : List Char :=
  let hex := (Nat.toDigits 16 b.toNat).map Char.toUpper
  '%' :: List.replicate (2 - hex.length) '0' ++ hex

def percentEncodeControls (cs : List Char) : List Char :=
  cs.flatMap fun c =>
    if c.toNat < 0x20 ∨ 0x7f ≤ c.toNat then (utf8Char c).flatMap percentByte else [c]

/-- Decodes one side of a query pair, where a plus sign stands for a space. -/
def queryText (cs : List Char) : String :=
  String.ofList (readUtf8 (percentDecode (cs.map fun c => if c = '+' then ' ' else c)))

/-- The pairs of a query: pieces between ampersands, cut at the first equals sign. Empty pieces are
skipped. -/
def queryPairs (cs : List Char) : List (String × String) :=
  ((pieces '&' cs).filter fun p => !p.isEmpty).map fun p =>
    let (k, v) := (cutFirst '=' p).getD (p, [])
    (queryText k, queryText v)

end TransportStack.Uri
