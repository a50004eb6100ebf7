import TransportStack.Proofs.FanIn.Conservation
import TransportStack.Scenario.GatherRun

/-!
The steps of the tasks of a demultiplexed listener, told as moves. A step in which a worker accepts
a stream and offers it at once is two moves of that worker; all other steps, and what callers do,
are one move or none. So what holds of all orders of moves holds of every state that the steps lead
to, also of those of a listener under trial.
-/

namespace TransportStack.FanIn

variable {ω κ σ : Type}

section

variable {τ : Type} (f : FanIn κ σ) (g : σ → τ)

def map : FanIn κ τ where
  capacity := f.capacity
  queue := f.queue.map g
  parked := f.parked.map fun q => (q.1, g q.2)
  workers := f.workers
  accepting := f.accepting
  count := f.count

theorem map_offer (worker : Nat) (s : σ) :
    (f.offer worker s).map g = (f.map g).offer worker (g s) := by
  have same : (f.map g).queue.length < (f.map g).capacity ↔ f.queue.length < f.capacity := by
    simp only [map, List.length_map]
  unfold offer
  split
  · rename_i room
    rw [if_pos (same.2 room)]
    simp [map]
  · rename_i no_room
    rw [if_neg fun room => no_room (same.1 room)]
    simp [map]

theorem map_leave (worker : Nat) : (f.leave worker).map g = (f.map g).leave worker := by
  simp only [leave, map, List.filter_map]
  rfl

theorem isParked_map (worker : Nat) : (f.map g).isParked worker = f.isParked worker := by
  simp only [isParked, map, List.any_map]
  rfl

theorem take?_map : (f.map g).take? = f.take?.map fun r => (g r.1, r.2.map g) := by
  unfold take?
  cases queued : f.queue with
  | nil => simp [map, queued]
  | cons s ss => cases waiting : f.parked <;> simp [map, promote, queued, waiting]

end

namespace Gathering

def plain (g : Gathering ω κ σ) : FanIn κ σ := g.fan.map Arrival.stream

end Gathering

variable (p : Supply ω κ σ)

/-- A state that moves can lead to, with empty hands. -/
def Told (capacity : Nat) (w₀ : ω) (f : FanIn κ σ) (w : ω) : Prop :=
  ∃ moves, let g := (Gathering.start capacity w₀ : Gathering ω κ σ).run p moves
    g.plain = f ∧ g.world = w ∧ g.inHand = []

variable {p} {capacity : Nat} {w₀ w w' : ω} {f f' : FanIn κ σ}

theorem told_start : Told p capacity w₀ (start capacity) w₀ := ⟨[], rfl, rfl, rfl⟩

private theorem told_of_run (told : Told p capacity w₀ f w)
    (h : ∀ g : Gathering ω κ σ, g.Sound → g.plain = f → g.world = w → g.inHand = [] →
      ∃ moves, let g' := g.run p moves; g'.plain = f' ∧ g'.world = w' ∧ g'.inHand = []) :
    Told p capacity w₀ f' w' := by
  obtain ⟨moves, plain, world, hands⟩ := told
  have sound := (Gathering.sound_start (κ := κ) (σ := σ) capacity w₀).run p moves
  obtain ⟨more, done⟩ := h _ sound plain world hands
  refine ⟨moves ++ more, ?_⟩
  simpa only [Gathering.run, List.foldl_append] using done

theorem Told.elsewhere (h : Told p capacity w₀ f w) (w' : ω) : Told p capacity w₀ f w' :=
  told_of_run h fun _ _ plain _ hands => ⟨[.elsewhere w'], plain, rfl, hands⟩

theorem Told.acceptorStep? (h : Told p capacity w₀ f w)
    (step : f.acceptorStep? p w = some (f', w')) : Told p capacity w₀ f' w' := by
  refine told_of_run h ?_
  rintro g - rfl rfl hands
  obtain ⟨accepting, ⟨shut, rfl, rfl⟩ | ⟨-, looked⟩⟩ := acceptorStep?_cases step
  · refine ⟨[.stopAccepting], ?_⟩
    simp only [Gathering.run, List.foldl_cons, List.foldl_nil, Gathering.move,
      Gathering.stopAccepting, shut, if_true, hands, and_true]
    rfl
  · change g.fan.accepting = true at accepting
    refine ⟨[.acceptConnection], ?_⟩
    obtain ⟨c, found, rfl⟩ | ⟨e, w₁, found, rfl, rfl⟩ := looked
    all_goals
      simp only [Gathering.run, List.foldl_cons, List.foldl_nil, Gathering.move,
        Gathering.acceptConnection, accepting, found, if_true, hands, and_true]
      rfl

/-- A step of a worker is one or two moves of the worker. -/
theorem Told.workerStep? (h : Told p capacity w₀ f w) {worker : Nat} {c : κ}
    (working : (worker, c) ∈ f.workers) (step : f.workerStep? p worker c w = some (f', w')) :
    Told p capacity w₀ f' w' := by
  refine told_of_run h ?_
  rintro g sound rfl rfl hands
  have found : g.fan.connection? worker = some c :=
    connection?_of_mem sound.orderly.distinct working
  obtain ⟨shut, rfl, rfl⟩ | ⟨-, unparked, looked⟩ := workerStep?_cases step
  · refine ⟨[.giveUp worker], ?_⟩
    simp only [Gathering.run, List.foldl_cons, List.foldl_nil, Gathering.move, Gathering.giveUp,
      found, shut, hands, List.filter_nil, and_true, Gathering.plain]
    exact map_leave _ _ worker
  · have free : g.isBusy worker = false := by
      rw [Gathering.plain, isParked_map] at unparked
      simp only [Gathering.isBusy, unparked, hands, List.any_nil, Bool.or_false]
    obtain ⟨s, accepted, rfl⟩ | ⟨e, w₁, failed, rfl, rfl⟩ := looked
    · refine ⟨[.acceptStream worker, .offer worker], ?_⟩
      simp only [Gathering.run, List.foldl_cons, List.foldl_nil, Gathering.move,
        Gathering.acceptStream, Gathering.offer, found, free, accepted, hands, List.nil_append,
        List.find?_cons, beq_self_eq_true, List.filter_cons, bne_self_eq_false,
        Bool.false_eq_true, if_false, List.filter_nil, and_true, Gathering.plain]
      exact map_offer _ _ worker _
    · refine ⟨[.acceptStream worker], ?_⟩
      simp only [Gathering.run, List.foldl_cons, List.foldl_nil, Gathering.move,
        Gathering.acceptStream, found, free, failed, hands, and_true, Gathering.plain]
      exact map_leave _ _ worker

theorem Told.step? (h : Told p capacity w₀ f w) (step : f.step? p w = some (f', w')) :
    Told p capacity w₀ f' w' := by
  rw [FanIn.step?, Option.or_eq_some_iff] at step
  obtain step | ⟨-, step⟩ := step
  · exact h.acceptorStep? step
  · obtain ⟨k, working, step⟩ := List.exists_of_findSome?_eq_some step
    exact h.workerStep? working step

theorem Told.accept (h : Told p capacity w₀ f w) : Told p capacity w₀ (f.accept p w).2 w := by
  refine told_of_run h ?_
  rintro g - rfl rfl hands
  unfold FanIn.accept
  split
  · exact ⟨[], rfl, rfl, hands⟩
  · refine ⟨[.accept 0], ?_⟩
    simp only [Gathering.run, List.foldl_cons, List.foldl_nil, Gathering.move, Gathering.accept]
    have both := take?_map g.fan Arrival.stream
    cases taken : g.fan.take? with
    | none =>
        rw [taken, Option.map_none] at both
        simp only [Gathering.plain, both, hands, and_true]
    | some r =>
        rw [taken, Option.map_some] at both
        simp only [Gathering.plain, both, hands, and_true]

end TransportStack.FanIn

namespace TransportStack.Scenario.GatherRun

open FanIn

def IsTold (capacity : Nat) (w₀ : GatherWorld) (s : GatherRun) : Prop :=
  Told GatherWorld.supply capacity w₀ s.fan s.world

variable {capacity : Nat} {w₀ : GatherWorld} {s : GatherRun}

theorem IsTold.retry (h : s.IsTold capacity w₀) (task : Nat) :
    (s.retry task).IsTold capacity w₀ := by
  have accepted := Told.accept h
  unfold GatherRun.retry
  split
  · exact h
  · rename_i r fan found
    rw [found] at accepted
    exact accepted

theorem IsTold.settle (h : s.IsTold capacity w₀) : s.settle.IsTold capacity w₀ := by
  unfold GatherRun.settle
  generalize s.patience = k
  induction k generalizing s with
  | zero => exact h
  | succ k ih =>
      have retried (tasks : List Nat) : ∀ s : GatherRun, s.IsTold capacity w₀ →
          (tasks.foldl GatherRun.retry s).IsTold capacity w₀ := by
        induction tasks with
        | nil => exact fun _ h => h
        | cons task tasks ih => exact fun s h => ih _ (h.retry task)
      have ready := retried s.waiting { s with waiting := [] } h
      simp only [settle.go]
      split
      · rename_i fan world step
        exact ih (Told.step? ready step)
      · exact ready

theorem IsTold.change (h : s.IsTold capacity w₀) (f : GatherWorld → GatherWorld) :
    (s.change f).IsTold capacity w₀ :=
  IsTold.settle (Told.elsewhere h (f s.world))

theorem IsTold.step (h : s.IsTold capacity w₀) (step : GatherStep) :
    (s.step step).2.IsTold capacity w₀ := by
  cases step with
  | accept =>
      have settled : GatherRun.IsTold capacity w₀
          (GatherRun.settle { s with count := s.count + 1, waiting := s.waiting ++ [s.count + 1] }) :=
        IsTold.settle h
      simp only [GatherRun.step]
      split
      · exact settled
      · exact settled
  | join task =>
      simp only [GatherRun.step]
      split <;> exact h
  | close =>
      have closed := h.change fun w => (w.fire w.shutdown).closeListener.2
      simp only [GatherRun.step]
      split <;> exact closed
  | address => exact h
  | connect | send | streamError | endConnection | closeConnection | listenerError | endListener
  | closeListener | drop => exact h.change _

/-- All states of a trial are states that moves can lead to. -/
theorem isTold_steps (capacity : Nat) (listenerCloseFails : Bool) (steps : List GatherStep) :
    let s := start capacity listenerCloseFails
    (steps.foldl (fun s step => (s.step step).2) s).IsTold capacity s.world := by
  intro s
  have told : s.IsTold capacity s.world := told_start
  generalize s.world = w₀ at told
  generalize s = s at told
  induction steps generalizing s with
  | nil => exact told
  | cons step steps ih => exact ih _ (told.step step)

end TransportStack.Scenario.GatherRun
