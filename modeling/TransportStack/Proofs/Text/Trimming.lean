import Mathlib.Data.List.DropRight
import TransportStack.Text.Blank

/-!
Trimming text: what is left neither begins nor ends with a blank, and it is the same for all texts
that have only blanks before and after it.
-/

namespace TransportStack.Text

/-- A text that neither begins nor ends with a blank. -/
structure IsTrimmed (cs : List Char) : Prop where
  head : ∀ c ∈ cs.head?, isBlank c = false
  last : ∀ c ∈ cs.getLast?, isBlank c = false

/-- A text with blanks before and after it. -/
def Spaced (cs spaced : List Char) : Prop :=
  ∃ before after, spaced = before ++ cs ++ after ∧
    (∀ c ∈ before, isBlank c = true) ∧ ∀ c ∈ after, isBlank c = true

variable {cs spaced : List Char}

theorem spaced_refl (cs : List Char) : Spaced cs cs :=
  ⟨[], [], by rw [List.nil_append, List.append_nil], nofun, nofun⟩

theorem Spaced.mem (h : Spaced cs spaced) {c : Char} (hc : c ∈ spaced) :
    c ∈ cs ∨ isBlank c = true := by
  obtain ⟨before, after, rfl, first, last⟩ := h
  simp only [List.mem_append] at hc
  obtain (hc | hc) | hc := hc
  · exact .inr (first c hc)
  · exact .inl hc
  · exact .inr (last c hc)

private theorem trim_eq_rdropWhile (cs : List Char) :
    trim cs = (cs.dropWhile isBlank).rdropWhile isBlank := rfl

theorem isTrimmed_trim (cs : List Char) : IsTrimmed (trim cs) where
  head c hc := by
    have first : (cs.dropWhile isBlank).head? = some c := by
      obtain ⟨dropped, same⟩ := List.rdropWhile_prefix isBlank (cs.dropWhile isBlank)
      rw [← same, List.head?_append, ← trim_eq_rdropWhile, Option.mem_def.1 hc, Option.some_or]
    simpa [first] using List.head?_dropWhile_not isBlank cs
  last c hc := by
    obtain ⟨some_left, rfl⟩ := List.mem_getLast?_eq_getLast hc
    exact Bool.eq_false_iff.2 (List.rdropWhile_last_not isBlank _ some_left)

theorem IsTrimmed.trim_eq (h : IsTrimmed cs) : trim cs = cs := by
  have front : cs.dropWhile isBlank = cs := by
    cases cs with
    | nil => rfl
    | cons c cs => exact List.dropWhile_cons_of_neg (by simp [h.head c rfl])
  rw [trim_eq_rdropWhile, front, List.rdropWhile_eq_self_iff]
  intro some_left
  simp [h.last _ (List.getLast?_eq_some_getLast some_left)]

/-- Blanks at the ends do not matter. -/
theorem Spaced.trim_eq (h : Spaced cs spaced) : trim spaced = trim cs := by
  obtain ⟨before, after, rfl, first, last⟩ := h
  have back (cs : List Char) : (cs ++ after).rdropWhile isBlank = cs.rdropWhile isBlank := by
    simp only [List.rdropWhile, List.reverse_append]
    rw [List.dropWhile_append_of_pos fun c hc => last c (List.mem_reverse.1 hc)]
  have nothing : after.dropWhile isBlank = [] := List.dropWhile_eq_nil_iff.2 last
  rw [trim_eq_rdropWhile, List.append_assoc, List.dropWhile_append_of_pos first,
    List.dropWhile_append, nothing]
  split
  · rename_i blank
    rw [trim_eq_rdropWhile, List.isEmpty_iff.1 blank]
  · exact back _

theorem spaced_trim (cs : List Char) : Spaced (trim cs) cs := by
  refine ⟨cs.takeWhile isBlank, (cs.dropWhile isBlank).rtakeWhile isBlank, ?_, ?_, ?_⟩
  · rw [trim_eq_rdropWhile, List.append_assoc, List.rdropWhile_append_rtakeWhile,
      List.takeWhile_append_dropWhile]
  · exact fun c hc => List.mem_takeWhile_imp hc
  · exact fun c hc => List.mem_rtakeWhile_imp hc

end TransportStack.Text
