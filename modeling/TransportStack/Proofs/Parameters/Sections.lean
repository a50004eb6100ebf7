import TransportStack.Parameters

/-!
What a section has of the parameters: the keys that begin with its name and a dot.
-/

namespace TransportStack

namespace Text

theorem after?_eq_some_iff {start cs rest : List Char} :
    after? start cs = some rest ↔ cs = start ++ rest := by
  induction start generalizing cs with
  | nil => simp [after?, eq_comm]
  | cons s start ih =>
      cases cs with
      | nil => simp [after?]
      | cons c cs =>
          by_cases h : s = c
          · simp [after?, h, ih]
          · simp [after?, h, Ne.symm h]

end Text

namespace Parameters

theorem keyWithin?_eq_none {name key : String} (h : '.' ∉ key.toList) :
    keyWithin? name key = none := by
  unfold keyWithin?
  cases ha : Text.after? (sectionStart name) key.toList with
  | none => rfl
  | some rest =>
      have split := Text.after?_eq_some_iff.1 ha
      have dot : '.' ∈ key.toList := by
        rw [split, sectionStart]
        simp
      exact absurd dot h

/-- Without dotted keys all layers see the common values alone. -/
theorem seenBy_of_no_dots {p : Parameters} (h : ∀ e ∈ p.entries, '.' ∉ e.1.toList)
    (name : String) : p.seenBy name = p.common := by
  have none_within : p.within name = .empty := by
    have none_left : (p.entries.filterMap fun e =>
        if e.2 = "" then none else (keyWithin? name e.1).map fun k => (k, e.2)) = [] := by
      rw [List.filterMap_eq_nil_iff]
      intro e he
      simp only [keyWithin?_eq_none (h e he), Option.map_none, ite_self]
    rw [within, none_left]
    rfl
  rw [seenBy, none_within]
  rfl

end Parameters

end TransportStack
