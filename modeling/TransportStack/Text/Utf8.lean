/-!
UTF-8. Writing is exact; reading replaces every longest broken beginning of a character by U+FFFD.
-/

namespace TransportStack.Text

def utf8Char (c : Char) : List UInt8 :=
  String.utf8EncodeChar c

def utf8 (cs : List Char) : List UInt8 :=
  cs.flatMap utf8Char

def replacement : Char := Char.ofNat 0xfffd

/-- The beginning of a character: how many bytes are missing, the bounds of the next one, and the
value so far. -/
structure Utf8Start where
  missing : Nat
  low : Nat
  high : Nat
  value : Nat

def utf8First (b : Nat) : List Char × Option Utf8Start :=
  if b < 0x80 then ([Char.ofNat b], none)
  else if 0xc2 ≤ b ∧ b ≤ 0xdf then ([], some ⟨1, 0x80, 0xbf, b - 0xc0⟩)
  else if 0xe0 ≤ b ∧ b ≤ 0xef then
    ([], some ⟨2, if b = 0xe0 then 0xa0 else 0x80, if b = 0xed then 0x9f else 0xbf, b - 0xe0⟩)
  else if 0xf0 ≤ b ∧ b ≤ 0xf4 then
    ([], some ⟨3, if b = 0xf0 then 0x90 else 0x80, if b = 0xf4 then 0x8f else 0xbf, b - 0xf0⟩)
  else ([replacement], none)

def utf8Next (s : Utf8Start) (b : Nat) : List Char × Option Utf8Start :=
  if s.low ≤ b ∧ b ≤ s.high then
    let value := s.value * 64 + (b - 0x80)
    if s.missing ≤ 1 then ([Char.ofNat value], none)
    else ([], some ⟨s.missing - 1, 0x80, 0xbf, value⟩)
  else
    let r := utf8First b
    (replacement :: r.1, r.2)

def readUtf8From : Option Utf8Start → List UInt8 → List Char
  | none, [] => []
  | some _, [] => [replacement]
  | start, b :: bs =>
      let r := match start with
        | none => utf8First b.toNat
        | some s => utf8Next s b.toNat
      r.1 ++ readUtf8From r.2 bs

def readUtf8 (bs : List UInt8) : List Char :=
  readUtf8From none bs

end TransportStack.Text
