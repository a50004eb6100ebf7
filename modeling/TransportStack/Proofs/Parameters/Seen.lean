import Mathlib.Data.List.DropRight
import TransportStack.Proofs.Parameters.Scoped
import TransportStack.Uri

/-!
What a layer sees of the parameters: under each key the value of its section, or else the common
one, where an empty value counts as none. It is the same in whatever order the entries are gone
through. Of the pairs of a query, the first value of a key that is not empty counts.
-/

namespace TransportStack

variable {α : Type}

/-- Entries of a dictionary come to the same whatever order they are inserted in. -/
theorem Dict.insertAll_of_perm (d : Dict α) {other : Dict α} {es : List (String × α)}
    (same : es.Perm other.entries) : d.insertAll es = d.overlay other := by
  refine ext_get? fun k => ?_
  have found : es.reverse.lookup k = other.get? k := by
    ext v
    rw [other.get?_eq_some_iff, lookup_eq_some_iff, List.mem_reverse, same.mem_iff]
    intro v v' h h'
    rw [List.mem_reverse, same.mem_iff] at h h'
    exact other.single h h'
  rw [get?_insertAll, get?_overlay, found]

/-- Entries with distinct keys make one dictionary in any order. -/
theorem Dict.ofList_of_perm {es es' : List (String × α)} (same : es.Perm es')
    (distinct : ∀ k v v', (k, v) ∈ es' → (k, v') ∈ es' → v = v') :
    ofList es = ofList es' := by
  refine ext_get? fun k => ?_
  have found : es.reverse.lookup k = es'.reverse.lookup k := by
    ext v
    rw [lookup_eq_some_iff, lookup_eq_some_iff, List.mem_reverse, List.mem_reverse, same.mem_iff]
    · exact fun v v' h h' => distinct k v v' (List.mem_reverse.1 h) (List.mem_reverse.1 h')
    · exact fun v v' h h' => distinct k v v' (same.mem_iff.1 (List.mem_reverse.1 h))
        (same.mem_iff.1 (List.mem_reverse.1 h'))
  rw [ofList, ofList, get?_insertAll, get?_insertAll, found]

namespace Parameters

/-- The name of a section without the dots at its end. -/
def bareName (name : String) : String := String.ofList (name.toList.rdropWhile (· == '.'))

/-- The value of a key, if it is not empty. -/
def filled? (p : Parameters) (k : String) : Option String := (p.get? k).filter (· != "")

/-- The section of a name, from entries in the order in which they come. -/
def sectionFrom (name : String) (es : List (String × String)) : Parameters :=
  Dict.ofList (es.filterMap fun e =>
    if e.2 = "" then none else (keyWithin? name e.1).map fun k => (k, e.2))

/-- The common values, from entries in the order in which they come. -/
def commonFrom (es : List (String × String)) : Parameters :=
  Dict.ofList (es.filter fun e => !e.1.toList.contains '.' && e.2 != "")

theorem scopedKey_eq (name k : String) : scopedKey name k = bareName name ++ "." ++ k := by
  rw [← String.toList_inj, scopedKey, bareName, sectionStart, String.toList_append,
    String.toList_append, String.toList_ofList, String.toList_ofList]
  rfl

variable (p : Parameters)

theorem get?_seenBy_eq (name k : String) :
    (p.seenBy name).get? k =
      (p.filled? (bareName name ++ "." ++ k)).or
        (if '.' ∈ k.toList then none else p.filled? k) := by
  rw [get?_seenBy, get?_within, get?_common, scopedKey_eq]
  rfl

theorem filled?_ne_empty (k : String) : p.filled? k ≠ some "" := by
  intro found
  have filled := (Option.filter_eq_some_iff.1 found).2
  simp at filled

theorem sectionFrom_of_perm (name : String) {es : List (String × String)}
    (same : es.Perm p.entries) : sectionFrom name es = p.within name := by
  refine Dict.ofList_of_perm (same.filterMap _) ?_
  intro k v v' h h'
  exact p.single ((p.mem_entriesWithin_iff name).1 h).1 ((p.mem_entriesWithin_iff name).1 h').1

theorem commonFrom_of_perm {es : List (String × String)} (same : es.Perm p.entries) :
    commonFrom es = p.common :=
  Dict.insertAll_of_perm .empty (same.filter _) |>.trans <| Dict.ext_get? fun k => by
    rw [Dict.get?_overlay]
    exact Option.or_none

/-- Of the pairs of a query, the first one that has the key and a value that is not empty
counts. -/
theorem get?_ofPairs (pairs : List (String × String)) (k : String) :
    (ofPairs pairs).get? k =
      (pairs.find? fun e => e.1 == k && e.2 != "").map (·.2) := by
  have found : (pairs.filter fun e => e.2 != "").lookup k =
      (pairs.find? fun e => e.1 == k && e.2 != "").map (·.2) := by
    induction pairs with
    | nil => rfl
    | cons e pairs ih =>
        rw [List.filter_cons, List.find?_cons]
        by_cases filled : (e.2 != "") = true
        · rw [if_pos filled, filled, Bool.and_true, List.lookup_cons, ih, BEq.comm (a := k)]
          split <;> rfl
        · rw [if_neg filled, ih, Bool.eq_false_of_not_eq_true filled, Bool.and_false]
  rw [ofPairs, Dict.ofList, Dict.get?_insertAll, List.reverse_reverse, found]
  exact Option.or_none

/-- Under each key a layer sees the value of its section, or else the common one, where an empty
value counts as none. So an empty value of its section hides nothing, and no value that it sees is
empty. This is what comes of going through the entries in any order. In parameters that come from a
query each key has the first of its values that is not empty. -/
theorem seen_scoped_else_common (p : Parameters) (name : String) :
    (∀ k, (p.seenBy name).get? k =
      (p.filled? (bareName name ++ "." ++ k)).or
        (if '.' ∈ k.toList then none else p.filled? k)) ∧
    (∀ k, p.get? (bareName name ++ "." ++ k) = some "" →
      (p.seenBy name).get? k = p.common.get? k) ∧
    (∀ k, (p.seenBy name).get? k ≠ some "") ∧
    (∀ es es' es'', es.Perm p.entries → es'.Perm p.entries →
      es''.Perm (sectionFrom name es').entries →
        (commonFrom es).insertAll es'' = p.seenBy name) ∧
    ∀ (url : Uri.Parts) (k : String), (ofPairs url.query).get? k =
      (url.query.find? fun e => e.1 == k && e.2 != "").map (·.2) := by
  refine ⟨p.get?_seenBy_eq name, ?_, ?_, ?_, fun url => get?_ofPairs url.query⟩
  · intro k hidden
    rw [p.get?_seenBy_eq, filled?, hidden, get?_common]
    rfl
  · intro k seen
    rw [get?_seenBy_eq, Option.or_eq_some_iff] at seen
    obtain own | ⟨-, shared⟩ := seen
    · exact p.filled?_ne_empty _ own
    · split at shared
      · cases shared
      · exact p.filled?_ne_empty k shared
  · intro es es' es'' first second third
    rw [Dict.insertAll_of_perm _ third, p.commonFrom_of_perm first,
      p.sectionFrom_of_perm name second]
    rfl

end Parameters

end TransportStack
