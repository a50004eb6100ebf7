/-!
Cutting text at a separating character and putting the pieces together again.
-/

namespace TransportStack.Text

/-- The pieces between the occurrences of `sep`; there is always at least one. -/
def pieces (sep : Char) : List Char → List (List Char)
  | [] => [[]]
  | c :: cs =>
      if c = sep then [] :: pieces sep cs
      else
        match pieces sep cs with
        | [] => [[c]]
        | p :: ps => (c :: p) :: ps

def joinPieces (sep : Char) : List (List Char) → List Char
  | [] => []
  | [p] => p
  | p :: ps => p ++ sep :: joinPieces sep ps

def cutFirst (sep : Char) : List Char → Option (List Char × List Char)
  | [] => none
  | c :: cs =>
      if c = sep then some ([], cs)
      else (cutFirst sep cs).map fun r => (c :: r.1, r.2)

def cutLast (sep : Char) : List Char → Option (List Char × List Char)
  | [] => none
  | c :: cs =>
      match cutLast sep cs with
      | some r => some (c :: r.1, r.2)
      | none => if c = sep then some ([], cs) else none

/-- What follows `start`, when the text begins with it. -/
def after? : List Char → List Char → Option (List Char)
  | [], cs => some cs
  | _ :: _, [] => none
  | s :: ss, c :: cs => if s = c then after? ss cs else none

def splitAt (sep : Char) (s : String) : List String :=
  (pieces sep s.toList).map String.ofList

def joinAt (sep : Char) (ps : List String) : String :=
  String.ofList (joinPieces sep (ps.map String.toList))

end TransportStack.Text
