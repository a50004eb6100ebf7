import TransportStack.Text.CombiningClass
import TransportStack.Uri.DomainName.Composite

/-!
The composed form of a text. Two texts that differ only in how letters with marks are written have
the same composed form: all characters are taken apart, the marks are put in order, and what can be
written as one character is put together again.
-/

namespace TransportStack.Uri.DomainName

open TransportStack.Text

/-- Adds a character to a text that is given backwards. A mark goes before the marks of a greater
class. -/
def place (c : Char) : List Char → List Char
  | [] => [c]
  | d :: ds =>
      if combiningClass c ≠ 0 ∧ combiningClass c < combiningClass d then d :: place c ds
      else c :: d :: ds

def takenApart (cs : List Char) : List Char :=
  ((cs.flatMap parts).foldl (fun ds c => place c ds) []).reverse

/-- The state while a text is put together: what is done, backwards, the last character that is no
mark, and the marks on it that could not be put together with it, backwards. -/
structure Composing where
  done : List Char
  base? : Option Char
  marks : List Char

namespace Composing

/-- Whether the last mark keeps a character away from the base. -/
def isBlocked (s : Composing) (c : Char) : Bool :=
  s.marks.head?.any fun m => combiningClass c ≤ combiningClass m

def text (s : Composing) : List Char :=
  s.marks ++ s.base?.toList ++ s.done

def add (s : Composing) (c : Char) : Composing :=
  match s.base? with
  | none =>
      if combiningClass c = 0 then { s with base? := some c } else { s with done := c :: s.done }
  | some b =>
      match if s.isBlocked c then none else composite? b c with
      | some joined => { s with base? := some joined }
      | none =>
          if combiningClass c = 0 then ⟨s.text, some c, []⟩
          else { s with marks := c :: s.marks }

end Composing

def composed (cs : List Char) : List Char :=
  ((takenApart cs).foldl Composing.add ⟨[], none, []⟩).text.reverse

end TransportStack.Uri.DomainName
