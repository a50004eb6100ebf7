import TransportStack.Text.Mark
import TransportStack.Uri.DomainName.Composed
import TransportStack.Uri.DomainName.Folding
import TransportStack.Uri.DomainName.Joining
import TransportStack.Uri.Punycode

/-!
Labels, the parts of a name between its dots. A label with characters outside ASCII is written as
its punycode behind `xn--`.
-/

namespace TransportStack.Uri.DomainName

open TransportStack.Text

structure Label where
  /-- The characters, none of them in punycode. -/
  chars : List Char
  ascii : List Char

def punycodeMark : List Char := "xn--".toList

def isForbidden (c : Char) : Bool :=
  c.toNat ≤ 0x20 || c.toNat == 0x7f || "%#/:<>?@[\\]^|".toList.contains c

def isAscii (cs : List Char) : Bool := cs.all fun c => c.toNat < 128

/-- Whether a text is written as it is. -/
def isPlain (cs : List Char) : Bool :=
  cs.all (fun c => fold? c == some [c] && !isForbidden c && c != '.') && composed cs == cs

/-- Whether folded characters can be a label: they do not begin with a mark, and joiners fit. -/
def isFit (cs : List Char) : Bool :=
  !(cs.head?.any isMark) && joinersFit [] cs

def longestCoded : Nat := 1000

def longestPunycode : Nat := 2000

def Label.read? (cs : List Char) : Option Label :=
  match after? punycodeMark cs with
  | some coded =>
      if isAscii coded && decide (coded.length ≤ longestPunycode) then do
        let chars ← Punycode.decode? coded
        if !isAscii chars && isPlain chars && isFit chars &&
            decide (chars.length ≤ longestCoded) then
          some ⟨chars, cs⟩
        else none
      else none
  | none =>
      if isAscii cs then some ⟨cs, cs⟩
      else if isFit cs && decide (cs.length ≤ longestCoded) then
        some ⟨cs, punycodeMark ++ Punycode.encode cs⟩
      else none

end TransportStack.Uri.DomainName
