import TransportStack.Text.Pieces

/-!
Punycode writes a label in ASCII: its ASCII characters, a hyphen, and the places of the others, as
differences in increasing order of code points, in base 36.
-/

namespace TransportStack.Uri.Punycode

open TransportStack.Text

def digitChar (n : Nat) : Char :=
  Char.ofNat (if n < 26 then 97 + n else 22 + n)

def digitValue? (c : Char) : Option Nat :=
  if 'a' ≤ c ∧ c ≤ 'z' then some (c.toNat - 97)
  else if '0' ≤ c ∧ c ≤ '9' then some (c.toNat - 22)
  else none

/-- Divides by 35 while the value is large, and adds 36 to `k` for each division. -/
def reduce (delta k : Nat) : Nat × Nat :=
  if 455 < delta then reduce (delta / 35) (k + 36) else (delta, k)
termination_by delta
decreasing_by exact Nat.div_lt_self (by omega) (by omega)

def adapt (delta points : Nat) (first : Bool) : Nat :=
  let delta := if first then delta / 700 else delta / 2
  let r := reduce (delta + delta / points) 0
  r.2 + 36 * r.1 / (r.1 + 38)

def threshold (bias k : Nat) : Nat :=
  if k ≤ bias then 1 else if k ≥ bias + 26 then 26 else k - bias

theorem threshold_pos (bias k : Nat) : 0 < threshold bias k := by
  unfold threshold
  split
  · omega
  · split <;> omega

/-- A difference as digits of varying weight, the lowest one first. The last digit is below its
threshold. -/
def writeDifference (bias k q : Nat) : List Char :=
  let t := threshold bias k
  if q < t then [digitChar q]
  else digitChar (t + (q - t) % (36 - t)) :: writeDifference bias (k + 36) ((q - t) / (36 - t))
termination_by q
decreasing_by
  have := threshold_pos bias k
  have := Nat.div_le_self (q - threshold bias k) (36 - threshold bias k)
  omega

structure Encoding where
  delta : Nat
  bias : Nat
  done : Nat
  output : List Char

/-- Writes the differences for one code point at all its places in the label. -/
def encodePoint (plain n : Nat) (e : Encoding) : List Nat → Encoding
  | [] => e
  | c :: cs =>
      if c < n then encodePoint plain n { e with delta := e.delta + 1 } cs
      else if c = n then
        encodePoint plain n
          { delta := 0
            bias := adapt e.delta (e.done + 1) (e.done == plain)
            done := e.done + 1
            output := e.output ++ writeDifference e.bias 36 e.delta } cs
      else encodePoint plain n e cs

def encodePoints (plain : Nat) (label : List Nat) (lowest : Nat) (e : Encoding) :
    List Nat → Encoding
  | [] => e
  | n :: ns =>
      let e := { e with delta := e.delta + (n - lowest) * (e.done + 1) }
      let e := encodePoint plain n e label
      encodePoints plain label (n + 1) { e with delta := e.delta + 1 } ns

def encode (cs : List Char) : List Char :=
  let plain := cs.filter fun c => c.toNat < 128
  let points := ((cs.map Char.toNat).filter (128 ≤ ·)).eraseDups.mergeSort
  let start : Encoding := ⟨0, 72, plain.length, if plain.isEmpty then [] else plain ++ ['-']⟩
  (encodePoints plain.length (cs.map Char.toNat) 128 start points).output

/-- The state while the differences of a label are read: the value and weight of the digits so far,
the place in the label, and the label. -/
structure Decoding where
  value : Nat
  weight : Nat
  position : Nat
  bias : Nat
  point : Nat
  place : Nat
  label : List Char

def word? (n : Nat) : Option Nat := if n < UInt32.size then some n else none

def char? (n : Nat) : Option Char := if n.isValidChar then some (Char.ofNat n) else none

def decodeDigit (d : Decoding) (c : Char) : Option Decoding := do
  let digit ← digitValue? c
  let value := d.value + digit * d.weight
  let place ← word? (d.place + value)
  let t := threshold d.bias d.position
  if digit < t then
    let size := d.label.length + 1
    let point := d.point + place / size
    let c ← char? point
    let place := place % size
    pure ⟨0, 1, 36, adapt value size (d.place == 0), point, place + 1,
      d.label.take place ++ c :: d.label.drop place⟩
  else
    let weight ← word? (d.weight * (36 - t))
    pure { d with value := value, weight := weight, position := d.position + 36 }

def decode? (cs : List Char) : Option (List Char) := do
  let (plain, digits) ←
    match cutLast '-' cs with
    | none => some ([], cs)
    | some ([], _) => none
    | some cut => some cut
  let d ← digits.foldlM decodeDigit ⟨0, 1, 36, 72, 128, 0, plain⟩
  if d.weight = 1 ∧ d.position = 36 then pure d.label else none

end TransportStack.Uri.Punycode
