/-!
Words for true and false. Letter case does not matter, for ASCII letters only.
-/

namespace TransportStack.Text

def lowerAscii (c : Char) : Char :=
  if 'A' ≤ c ∧ c ≤ 'Z' then Char.ofNat (c.toNat + 32) else c

def sameWord (a b : String) : Bool :=
  a.toList.map lowerAscii == b.toList.map lowerAscii

def trueWords : List String := ["1", "y", "yes", "true", "t"]

def falseWords : List String := ["0", "n", "no", "false", "f"]

def isTrueWord (s : String) : Bool := trueWords.any (sameWord s)

def isFalseWord (s : String) : Bool := falseWords.any (sameWord s)

def readTruth? (s : String) : Option Bool :=
  if isTrueWord s then some true else if isFalseWord s then some false else none

end TransportStack.Text
