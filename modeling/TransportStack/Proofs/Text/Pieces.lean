import TransportStack.Text.Pieces

/-!
Cutting text: the pieces of joined text are those that were joined, joining the pieces of a text
gives the text, and text is cut last where no separator comes after.
-/

namespace TransportStack.Text

variable {sep : Char}

theorem joinPieces_eq_intercalate (ps : List (List Char)) :
    joinPieces sep ps = [sep].intercalate ps := by
  induction ps with
  | nil => rfl
  | cons p ps ih =>
      cases ps with
      | nil => simp [joinPieces]
      | cons q qs => simp [joinPieces, ih]

theorem joinPieces_concat {ps : List (List Char)} (joined : ps ≠ []) (p : List Char) :
    joinPieces sep (ps ++ [p]) = joinPieces sep ps ++ sep :: p := by
  induction ps with
  | nil => exact absurd rfl joined
  | cons q qs ih =>
      cases qs with
      | nil => rfl
      | cons r rs =>
          have tail := ih (List.cons_ne_nil r rs)
          simp only [List.cons_append, joinPieces] at tail ⊢
          rw [tail, List.append_assoc, List.cons_append]

theorem notMem_joinPieces {ps : List (List Char)} {c : Char} (other : c ≠ sep)
    (absent : ∀ p ∈ ps, c ∉ p) : c ∉ joinPieces sep ps := by
  induction ps with
  | nil => exact List.not_mem_nil
  | cons q qs ih =>
      cases qs with
      | nil => exact absent q List.mem_cons_self
      | cons r rs =>
          have rest := ih fun p hp => absent p (List.mem_cons_of_mem q hp)
          simp only [joinPieces, List.mem_append, List.mem_cons, not_or]
          exact ⟨absent q List.mem_cons_self, other, rest⟩

theorem pieces_append {p : List Char} (whole : sep ∉ p) (cs : List Char) :
    pieces sep (p ++ sep :: cs) = p :: pieces sep cs := by
  induction p with
  | nil => simp [pieces]
  | cons c p ih =>
      rw [List.mem_cons, not_or] at whole
      simp [pieces, ih whole.2, Ne.symm whole.1]

theorem pieces_of_notMem {p : List Char} (whole : sep ∉ p) : pieces sep p = [p] := by
  induction p with
  | nil => rfl
  | cons c p ih =>
      rw [List.mem_cons, not_or] at whole
      simp [pieces, ih whole.2, Ne.symm whole.1]

theorem pieces_joinPieces {ps : List (List Char)} (joined : ps ≠ []) (whole : ∀ p ∈ ps, sep ∉ p) :
    pieces sep (joinPieces sep ps) = ps := by
  induction ps with
  | nil => exact absurd rfl joined
  | cons q qs ih =>
      cases qs with
      | nil => exact pieces_of_notMem (whole q List.mem_cons_self)
      | cons r rs =>
          rw [joinPieces, pieces_append (whole q List.mem_cons_self),
            ih (List.cons_ne_nil r rs) fun p hp => whole p (List.mem_cons_of_mem q hp)]
          exact List.cons_ne_nil r rs

theorem notMem_of_mem_pieces {p cs : List Char} (h : p ∈ pieces sep cs) : sep ∉ p := by
  induction cs generalizing p with
  | nil =>
      rw [List.mem_singleton.1 h]
      exact List.not_mem_nil
  | cons c cs ih =>
      unfold pieces at h
      split at h
      · obtain rfl | h := List.mem_cons.1 h
        · exact List.not_mem_nil
        · exact ih h
      · rename_i other
        have longer {q : List Char} (hq : sep ∉ q) : sep ∉ c :: q := by
          simp [hq, Ne.symm other]
        split at h
        · rw [List.mem_singleton.1 h]
          exact longer List.not_mem_nil
        · rename_i q qs found
          obtain rfl | h := List.mem_cons.1 h
          · exact longer (ih (found ▸ List.mem_cons_self))
          · exact ih (found ▸ List.mem_cons_of_mem q h)

theorem length_pieces (cs : List Char) : (pieces sep cs).length = cs.count sep + 1 := by
  induction cs with
  | nil => rfl
  | cons c cs ih =>
      unfold pieces
      split
      · rename_i same
        rw [List.length_cons, ih, same, List.count_cons_self]
      · rename_i other
        rw [List.count_cons_of_ne other, ← ih]
        split
        · rename_i nothing
          rw [nothing] at ih
          cases ih
        · rename_i found
          rw [found, List.length_cons, List.length_cons]

theorem joinPieces_pieces (cs : List Char) : joinPieces sep (pieces sep cs) = cs := by
  induction cs with
  | nil => rfl
  | cons c cs ih =>
      have more : (pieces sep cs).length = cs.count sep + 1 := length_pieces cs
      unfold pieces
      split
      · rename_i same
        cases found : pieces sep cs with
        | nil =>
            rw [found] at more
            cases more
        | cons p ps => rw [joinPieces, ← found, ih, List.nil_append, same]; exact nofun
      · split
        · rename_i nothing
          rw [nothing] at more
          cases more
        · rename_i p ps found
          rw [found] at ih
          rw [← ih]
          cases ps <;> rfl

theorem mem_pieces {c : Char} {cs : List Char} (h : c ∈ cs) (other : c ≠ sep) :
    ∃ p ∈ pieces sep cs, c ∈ p := by
  induction cs with
  | nil => cases h
  | cons d cs ih =>
      unfold pieces
      obtain rfl | later := List.mem_cons.1 h
      · rw [if_neg other]
        split
        · exact ⟨_, List.mem_cons_self, List.mem_cons_self⟩
        · exact ⟨_, List.mem_cons_self, List.mem_cons_self⟩
      · obtain ⟨p, hp, hc⟩ := ih later
        split
        · exact ⟨p, List.mem_cons_of_mem _ hp, hc⟩
        · split
          · rename_i nothing
            rw [nothing] at hp
            cases hp
          · rename_i q qs found
            rw [found] at hp
            obtain rfl | further := List.mem_cons.1 hp
            · exact ⟨_, List.mem_cons_self, List.mem_cons_of_mem d hc⟩
            · exact ⟨p, List.mem_cons_of_mem _ further, hc⟩

theorem cutLast_eq_none {cs : List Char} (absent : sep ∉ cs) : cutLast sep cs = none := by
  induction cs with
  | nil => rfl
  | cons c cs ih =>
      rw [List.mem_cons, not_or] at absent
      simp [cutLast, ih absent.2, Ne.symm absent.1]

theorem cutLast_append (front : List Char) {back : List Char} (last : sep ∉ back) :
    cutLast sep (front ++ sep :: back) = some (front, back) := by
  induction front with
  | nil => simp [cutLast, cutLast_eq_none last]
  | cons c front ih => simp [cutLast, ih]

end TransportStack.Text
