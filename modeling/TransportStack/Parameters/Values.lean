import TransportStack.Duration.Reader
import TransportStack.Parameters
import TransportStack.Text.Truth

/-!
Typed readings of parameter values. A reading falls back to a given value when the key is absent or
its text is malformed.
-/

namespace TransportStack.Parameters

open TransportStack.Text

def duration (p : Parameters) (key : String) (fallback : Duration) : Duration :=
  ((p.get? key).bind Duration.read?).getD fallback

/-- A duration, or nothing when the value is a word for false. -/
def durationOrDisabled (p : Parameters) (key : String) (fallback : Duration) : Option Duration :=
  match p.get? key with
  | none => some fallback
  | some v => if isFalseWord v then none else some ((Duration.read? v).getD fallback)

def integer (p : Parameters) (key : String) (width : Width) (fallback : Int) : Int :=
  ((p.get? key).bind width.read?).getD fallback

def count (p : Parameters) (key : String) (fallback : Nat) : Nat :=
  ((p.get? key).bind Width.count.readNat?).getD fallback

def positiveCount (p : Parameters) (key : String) (fallback : Nat) : Nat :=
  max (p.count key fallback) 1

def boolean (p : Parameters) (key : String) (fallback : Bool) : Bool :=
  ((p.get? key).bind readTruth?).getD fallback

def string (p : Parameters) (key : String) (fallback : String) : String :=
  (p.get? key).getD fallback

def strings (p : Parameters) (key : String) (fallback : List String) : List String :=
  ((p.get? key).map (splitAt ',')).getD fallback

end TransportStack.Parameters
