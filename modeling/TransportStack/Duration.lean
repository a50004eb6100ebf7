/-!
Lengths of time with a resolution of one nanosecond.
-/

namespace TransportStack

/-- A length of time as whole seconds and the nanoseconds of the last second. -/
structure Duration where
  seconds : Nat
  nanoseconds : Nat
  deriving DecidableEq, Repr

namespace Duration

def perSecond : Nat := 1000000000

def zero : Duration := ⟨0, 0⟩

def ofSeconds (n : Nat) : Duration := ⟨n, 0⟩

def padded (width n : Nat) : List Char :=
  let digits := Nat.toDigits 10 n
  List.replicate (width - digits.length) '0' ++ digits

def fraction (width n : Nat) : List Char :=
  ((padded width n).reverse.dropWhile (· == '0')).reverse

/-- A decimal with its fraction shortened, and no point when the fraction is nothing. -/
def decimal (whole width rest : Nat) : String :=
  match fraction width rest with
  | [] => toString whole
  | f => toString whole ++ "." ++ String.ofList f

/-- The short text: the largest unit of which there is at least one. -/
def render (d : Duration) : String :=
  if d.seconds > 0 then decimal d.seconds 9 d.nanoseconds ++ "s"
  else if d.nanoseconds ≥ 1000000 then
    decimal (d.nanoseconds / 1000000) 6 (d.nanoseconds % 1000000) ++ "ms"
  else if d.nanoseconds ≥ 1000 then
    decimal (d.nanoseconds / 1000) 3 (d.nanoseconds % 1000) ++ "µs"
  else toString d.nanoseconds ++ "ns"

end Duration

end TransportStack
