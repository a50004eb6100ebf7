import TransportStack.Text.Ranges

/-!
Blank characters and trimming. The blanks are those with the Unicode property White_Space, which
is a larger set than the ASCII blanks.
-/

namespace TransportStack.Text

def blankRanges : Ranges :=
  [(0x09, 0x0d), (0x20, 0x20), (0x85, 0x85), (0xa0, 0xa0), (0x1680, 0x1680), (0x2000, 0x200a),
    (0x2028, 0x2029), (0x202f, 0x202f), (0x205f, 0x205f), (0x3000, 0x3000)]

def isBlank (c : Char) : Bool := blankRanges.has c

def dropEndWhile (p : Char → Bool) (cs : List Char) : List Char :=
  (cs.reverse.dropWhile p).reverse

def trim (cs : List Char) : List Char :=
  dropEndWhile isBlank (cs.dropWhile isBlank)

end TransportStack.Text
