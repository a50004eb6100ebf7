import TransportStack.Proofs.Rotation.Plain
import TransportStack.Proofs.Redial.Keeping
import TransportStack.Proofs.Shutdown.Steps

/-!
The signals of what a program makes next. Only signals that were made have fired, so a new one is
open, and it has nothing to do with those that there are.
-/

namespace TransportStack

open Network

/-- No signal closes both when it is fired. -/
def Signal.Unrelated (s t : Signal) : Prop :=
  ∀ f : Signal, f.lineage <:+ s.lineage → ¬f.lineage <:+ t.lineage

theorem Signal.unrelated_of_new {k : Nat} {s : Signal} (new : k ∉ s.lineage) :
    Signal.Unrelated ⟨k, []⟩ s := by
  intro f above
  have own : f.lineage = [k] := by
    obtain same | none := List.suffix_cons_iff.1 above
    · exact same
    · cases List.suffix_nil.1 none
  rw [own]
  exact fun above => new (above.subset List.mem_cons_self)

/-- Dialed sessions have plain signals. -/
theorem Network.Fits.origin {ρ : List Role} {n : Network} (h : n.Fits ρ) {i : Nat}
    {o : Option MemoryDial × Signal} (there : n.origins[i]? = some o) : o.2.IsPlain ρ := by
  obtain ⟨s, hs, rfl⟩ := List.mem_map.1 (List.mem_of_getElem? there)
  exact (h.session s hs).1

theorem Act.Causes.hasRole {ρ : List Role} {p : Program} {f : Signal} {a : Act}
    (cause : a.Causes ρ p f) : ∃ role, f.HasRole ρ role := by
  have ordinary (h : f.IsOrdinary ρ) : ∃ role, f.HasRole ρ role := h.elim (⟨_, ·⟩) (⟨_, ·⟩)
  have closes {inside : List Holding} (h : ClosesWith ρ inside f) : ∃ role, f.HasRole ρ role :=
    h.elim (⟨_, ·⟩) fun ⟨i, role, _⟩ => ⟨_, role⟩
  cases a with
  | use place u =>
      obtain ⟨x, -, cause⟩ := cause
      cases u with
      | close =>
          cases x with
          | streamListener l => exact closes cause
          | muxListener l => exact closes cause
          | packet _ | stream _ | muxed _ => exact ordinary cause
      | accept | openStream | redial | perform _ | send _ | receive => exact ordinary cause
  | link => exact ordinary cause
  | release others => exact cause.elim (fun h => ⟨_, h.1⟩) fun ⟨i, role, _⟩ => ⟨_, role⟩
  | acceptor i fault? => exact ⟨_, cause.1⟩
  | worker i k fault? => exact ordinary cause.1
  | produce | follow | pairSockets | pairStreams | drop | clear => exact cause.elim

namespace Program

/-- Only signals that were made have fired. -/
theorem made_run (r : Rehearsal) (acts : List Act) :
    ∃ ρ, ((start r).run acts).Sound ρ ∧ ((start r).run acts).network.Made := by
  obtain ⟨ρ, sound, caused⟩ := sound_run r acts
  refine ⟨ρ, sound, fun f hf => ?_⟩
  obtain ⟨before, a, after, -, -, -, cause⟩ := caused f hf
  obtain ⟨role, known⟩ := cause.hasRole
  rw [sound.fits.count]
  exact (List.getElem?_eq_some_iff.1 known).1

section

variable {p : Program} {ρ : List Role} (sound : p.Sound ρ) (made : p.network.Made)

include sound made

/-- What is made next has a signal of its own, which has not fired. -/
theorem Sound.next_unrelated {s : Signal} (plain : s.IsPlain ρ) :
    p.network.isFired (p.network.nextSignal []) = false ∧
      (p.network.nextSignal []).Unrelated s := by
  refine ⟨?_, Signal.unrelated_of_new fun old => ?_⟩
  · rw [Bool.eq_false_iff]
    exact fun fired => Nat.lt_irrefl _ (made _ ((Signals.isFired_root_iff _).1 fired))
  · have within := (List.getElem?_eq_some_iff.1 (plain _ old)).1
    rw [← sound.fits.count] at within
    exact Nat.lt_irrefl _ within

/-- The stream that a socket makes of what it has dialed is open. -/
theorem Sound.next_unfired {s : Signal} (unfired : p.network.isFired s = false) {q : Producer}
    {n : Network} {x : Product} (dialed : dial q p.network = (.ok x, n)) :
    n.isFired (n.nextSignal s.lineage) = false := by
  have ends := keeps_dial (P := fun _ => False) q ρ p.network sound.fits
  rw [dialed] at ends
  obtain ⟨ρ', more, proceeds, fits, -⟩ := ends
  -- Dialing fires nothing, so that what has fired now had fired before.
  have old {f : Signal} (hf : f ∈ n.signals.fired) : f ∈ p.network.signals.fired :=
    (proceeds.causes f hf).resolve_right id
  rw [Bool.eq_false_iff]
  intro fired
  obtain own | above := (Signals.isFired_child_iff _ _).1 fired
  · have number := made _ (old own)
    rw [sound.fits.count] at number
    have length : n.signals.count < ρ.length := number
    rw [fits.count] at length
    exact Nat.not_lt_of_le more.length_le length
  · obtain ⟨f, hf, above⟩ := Signals.isFired_iff.1 above
    have parent : p.network.isFired s = true := Signals.isFired_iff.2 ⟨f, old hf, above⟩
    exact Bool.eq_false_iff.1 unfired parent

end

end Program

end TransportStack
