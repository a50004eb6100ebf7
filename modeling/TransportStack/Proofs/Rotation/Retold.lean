import TransportStack.Proofs.Rotation.Turns
import TransportStack.Scenario.DialRun

/-!
Whole calls, told as moves. A call that nothing interrupts is that of its caller taking the lock and
going on until it returns, so what holds of all orders of moves holds of every state that whole
calls lead to, also of that of a dialer under trial.
-/

namespace TransportStack.Rotation

variable {ω κ σ : Type} (d : Dialer ω κ σ)

/-- A state that moves can lead to, in which no call has the lock. -/
def Told (p : Parameters) (w₀ : ω) (r : Rotation κ) (w : ω) : Prop :=
  ∃ moves, let s := (Callers.start p w₀ : Callers ω κ σ).run d moves
    s.rotation = r ∧ s.world = w ∧ s.current = none

variable {d} {p : Parameters} {w₀ w : ω} {r : Rotation κ}

theorem told_start : Told d p w₀ (ofParameters p) w₀ := ⟨[], rfl, rfl, rfl⟩

private theorem told_more (told : Told d p w₀ r w) {r' : Rotation κ} {w' : ω}
    (h : ∀ s : Callers ω κ σ, s.rotation = r → s.world = w → s.current = none →
      ∃ moves, let s' := s.run d moves; s'.rotation = r' ∧ s'.world = w' ∧ s'.current = none) :
    Told d p w₀ r' w' := by
  obtain ⟨moves, rotation, world, free⟩ := told
  obtain ⟨more, done⟩ := h _ rotation world free
  refine ⟨moves ++ more, ?_⟩
  simpa only [Callers.run, List.foldl_append] using done

theorem Told.elsewhere (h : Told d p w₀ r w) (w' : ω) : Told d p w₀ r w' :=
  told_more h fun _ rotation _ free => ⟨[.elsewhere w'], rotation, rfl, free⟩

theorem Told.call (h : Told d p w₀ r w) :
    let after := r.call d w
    Told d p w₀ after.2.1 after.2.2 := by
  refine told_more h ?_
  rintro s rfl rfl free
  have waits : 0 ∈ (s.move d (.call 0)).waiting :=
    List.mem_append_right _ (List.mem_singleton_self 0)
  have made := Callers.makesCall (d := d) (s := s.move d (.call 0)) free waits
  exact ⟨[.call 0, .lock 0, .proceed, .proceed, .proceed], made.rotation, made.world, made.free⟩

end TransportStack.Rotation

namespace TransportStack.Scenario.DialRun

open Rotation

def IsTold (p : Parameters) (w₀ : DialWorld) (s : DialRun) : Prop :=
  Told DialWorld.dialer p w₀ s.rotation s.world

variable {p : Parameters} {w₀ : DialWorld} {s : DialRun}

theorem IsTold.settle (h : s.IsTold p w₀) : s.settle.IsTold p w₀ := by
  unfold DialRun.settle
  generalize s.waiting = tasks
  induction tasks generalizing s with
  | nil => exact h
  | cons task tasks ih =>
      simp only [settle.go]
      split
      · exact Told.elsewhere h _
      · exact ih (Told.call h)

theorem IsTold.step (h : s.IsTold p w₀) (step : DialStep) : (s.step step).2.IsTold p w₀ := by
  cases step with
  | dial =>
      have settled : DialRun.IsTold p w₀
          (DialRun.settle { s with count := s.count + 1, waiting := s.waiting ++ [s.count + 1] }) :=
        IsTold.settle h
      simp only [DialRun.step]
      split
      · exact settled
      · exact settled
  | join task =>
      simp only [DialRun.step]
      split <;> exact h
  | release n => exact IsTold.settle (Told.elsewhere h _)
  | close k | failOpen k => exact Told.elsewhere h _

/-- All states of a trial are states that moves can lead to. -/
theorem isTold_steps (p : Parameters) (outcomes : List DialOutcome) (steps : List DialStep) :
    let s := start p outcomes
    (steps.foldl (fun s step => (s.step step).2) s).IsTold p s.world := by
  intro s
  have told : s.IsTold p s.world := told_start
  generalize s.world = w₀ at told
  generalize s = s at told
  induction steps generalizing s with
  | nil => exact told
  | cons step steps ih => exact ih _ (told.step step)

end TransportStack.Scenario.DialRun
