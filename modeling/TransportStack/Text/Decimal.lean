/-!
Decimal numerals of bounded integers. A numeral is an optional sign and at least one ASCII digit;
leading zeros are allowed and blanks are not.
-/

namespace TransportStack.Text

def digit? (c : Char) : Option Nat :=
  if '0' ≤ c ∧ c ≤ '9' then some (c.toNat - '0'.toNat) else none

def readDigits (value : Nat) : List Char → Option Nat
  | [] => some value
  | c :: cs => (digit? c).bind fun d => readDigits (value * 10 + d) cs

def readNatural? : List Char → Option Nat
  | [] => none
  | c :: cs => readDigits 0 (c :: cs)

structure Width where
  bits : Nat
  signed : Bool
  deriving DecidableEq, Repr

def Width.low (w : Width) : Int :=
  if w.signed then -(Nat.pow 2 (w.bits - 1) : Nat) else 0

def Width.high (w : Width) : Int :=
  if w.signed then (Nat.pow 2 (w.bits - 1) : Nat) - 1 else (Nat.pow 2 w.bits : Nat) - 1

def Width.holds (w : Width) (n : Int) : Bool :=
  w.low ≤ n && n ≤ w.high

/-- Reads a numeral of a width. A minus sign is only read for a signed width. -/
def Width.read? (w : Width) (s : String) : Option Int :=
  let value : Option Int :=
    match s.toList with
    | '+' :: cs => (readNatural? cs).map Int.ofNat
    | '-' :: cs => if w.signed then (readNatural? cs).map fun n => -Int.ofNat n else none
    | cs => (readNatural? cs).map Int.ofNat
  value.filter w.holds

/-- The counts of the machine: unsigned, 64 bits. -/
def Width.count : Width := ⟨64, false⟩

def Width.port : Width := ⟨16, false⟩

def Width.readNat? (w : Width) (s : String) : Option Nat :=
  (w.read? s).map Int.toNat

end TransportStack.Text
