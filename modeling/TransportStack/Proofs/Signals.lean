import TransportStack.Signal

/-!
When signals have fired: a signal without ancestors when it was fired itself, a child also when its
parent has fired. Firing adds at most the one signal to those that were fired.
-/

namespace TransportStack

theorem Signal.eq_of_lineage {s t : Signal} (h : s.lineage = t.lineage) : s = t := by
  obtain ⟨number, ancestors⟩ := s
  obtain ⟨number', ancestors'⟩ := t
  simp only [lineage, List.cons.injEq] at h
  rw [h.1, h.2]

namespace Signals

variable {g : Signals}

theorem isFired_iff {s : Signal} :
    g.isFired s = true ↔ ∃ f ∈ g.fired, f.lineage <:+ s.lineage := by
  simp only [isFired, List.any_eq_true, List.isSuffixOf_iff_suffix]

/-- A child has fired when it was fired itself or its parent has fired. -/
theorem isFired_child_iff (number : Nat) (parent : Signal) :
    g.isFired ⟨number, parent.lineage⟩ = true ↔
      ⟨number, parent.lineage⟩ ∈ g.fired ∨ g.isFired parent = true := by
  rw [isFired_iff, isFired_iff]
  change (∃ f ∈ g.fired, f.lineage <:+ number :: parent.lineage) ↔ _
  simp only [List.suffix_cons_iff]
  constructor
  · rintro ⟨f, hf, same | above⟩
    · have self : f = ⟨number, parent.lineage⟩ := Signal.eq_of_lineage same
      exact .inl (self ▸ hf)
    · exact .inr ⟨f, hf, above⟩
  · rintro (self | ⟨f, hf, above⟩)
    · exact ⟨_, self, .inl rfl⟩
    · exact ⟨f, hf, .inr above⟩

theorem isFired_root_iff (number : Nat) :
    g.isFired ⟨number, []⟩ = true ↔ ⟨number, []⟩ ∈ g.fired := by
  rw [isFired_iff]
  change (∃ f ∈ g.fired, f.lineage <:+ [number]) ↔ _
  simp only [List.suffix_cons_iff, List.suffix_nil]
  constructor
  · rintro ⟨f, hf, same | none⟩
    · have self : f = ⟨number, []⟩ := Signal.eq_of_lineage same
      exact self ▸ hf
    · exact nomatch none
  · exact fun self => ⟨_, self, .inl rfl⟩

theorem mem_fired_fire {s f : Signal} (h : f ∈ (g.fire s).fired) : f = s ∨ f ∈ g.fired := by
  unfold fire at h
  split at h
  · exact .inr h
  · exact List.mem_cons.1 h

theorem fired_subset_fire (s : Signal) : g.fired ⊆ (g.fire s).fired := by
  intro f hf
  unfold fire
  split
  · exact hf
  · exact List.mem_cons_of_mem _ hf

theorem isFired_fire_self (s : Signal) : (g.fire s).isFired s = true := by
  unfold fire
  split
  · assumption
  · exact isFired_iff.2 ⟨s, List.mem_cons_self, List.suffix_rfl⟩

/-- Firing a signal fires it and what descends from it, and nothing else. -/
theorem isFired_fire_iff {f s : Signal} :
    (g.fire f).isFired s = true ↔ g.isFired s = true ∨ f.lineage <:+ s.lineage := by
  constructor
  · intro fired
    obtain ⟨f', hf, above⟩ := isFired_iff.1 fired
    obtain rfl | old := mem_fired_fire hf
    · exact .inr above
    · exact .inl (isFired_iff.2 ⟨f', old, above⟩)
  · rintro (fired | above)
    · obtain ⟨f', hf, above⟩ := isFired_iff.1 fired
      exact isFired_iff.2 ⟨f', fired_subset_fire f hf, above⟩
    · obtain ⟨f', hf, self⟩ := isFired_iff.1 (isFired_fire_self (g := g) f)
      exact isFired_iff.2 ⟨f', hf, self.trans above⟩

theorem number_mem_of_suffix {f s : Signal} (above : f.lineage <:+ s.lineage) :
    f.number ∈ s.lineage :=
  above.subset List.mem_cons_self

/-- Firing a signal without ancestors adds it. -/
theorem mem_fired_fire_root_iff {number : Nat} {f : Signal} :
    f ∈ (g.fire ⟨number, []⟩).fired ↔ f ∈ g.fired ∨ f = ⟨number, []⟩ := by
  constructor
  · intro fired
    obtain new | old := mem_fired_fire fired
    · exact .inr new
    · exact .inl old
  · rintro (old | rfl)
    · exact fired_subset_fire _ old
    · exact (isFired_root_iff number).1 (isFired_fire_self _)

@[simp] theorem count_fire (s : Signal) : (g.fire s).count = g.count := by
  unfold fire
  split <;> rfl

end Signals

end TransportStack
