import Mathlib.Data.List.Perm.Subperm
import TransportStack.Proofs.FanIn.Conservation

/-!
How much a demultiplexed listener takes in before anybody asks for it. Calls may wait for a stream,
and one that is sent while a call waits is handed to that call. Of the streams that nobody has got
yet, the queue has as many as it takes at most, and each worker has one, with which it waits, and
accepts nothing, until there is room.
-/

namespace TransportStack.FanIn

/-- A demultiplexed listener with the calls that wait for a stream, the first one first. -/
structure Attended (ω κ σ : Type) where
  gathering : Gathering ω κ σ
  waiting : List Nat

inductive Attended.Act (ω : Type)
  /-- A move of a task or of something else. A stream that it sends while a call waits is handed to
  that call. -/
  | move (m : Move ω)
  /-- A move before the calls that wait have looked: what it sends takes up room until they do. -/
  | ahead (m : Move ω)
  /-- A call comes, and waits unless there is a stream for it. -/
  | call (caller : Nat)
  /-- A call that waits is given up. -/
  | abandon (caller : Nat)

namespace Attended

variable {ω κ σ : Type}

def start (capacity : Nat) (w : ω) : Attended ω κ σ := ⟨.start capacity w, []⟩

/-- The first of the calls that wait gets the stream that is there. -/
def attend (g : Attended ω κ σ) : Attended ω κ σ :=
  match g.waiting, g.gathering.fan.take? with
  | caller :: others, some _ => ⟨g.gathering.accept caller, others⟩
  | _, _ => g

variable (p : Supply ω κ σ)

def act (g : Attended ω κ σ) : Act ω → Attended ω κ σ
  | .move m => attend { g with gathering := g.gathering.move p m }
  | .ahead m => { g with gathering := g.gathering.move p m }
  | .call caller => attend { g with waiting := g.waiting ++ [caller] }
  | .abandon caller => { g with waiting := g.waiting.erase caller }

def run (g : Attended ω κ σ) (acts : List (Act ω)) : Attended ω κ σ := acts.foldl (act p) g

end Attended

namespace Gathering

variable {ω κ σ : Type} {g : Gathering ω κ σ}

theorem Sound.length_accepted (h : g.Sound) :
    g.accepted.length = g.returned.length + g.dropped.length +
      (g.fan.queue.length + (g.fan.parked.map Prod.snd ++ g.inHand).length) := by
  have counted := h.perm.length_eq
  simp only [kept, FanIn.line, List.length_append, List.length_map] at counted ⊢
  omega

/-- Streams that are held are held by different workers, so they are no more than the workers. -/
theorem Sound.length_held_le (h : g.Sound) :
    (g.fan.parked.map Prod.snd ++ g.inHand).length ≤ g.fan.workers.length := by
  have distinct : ((g.fan.parked.map Prod.snd ++ g.inHand).map Arrival.worker).Nodup := by
    rw [List.nodup_iff_count_le_one]
    intro k
    have single := h.single k
    rwa [held, ofWorker, ← List.countP_eq_length_filter,
      ← Function.comp_def (· == k) Arrival.worker, ← List.countP_map, ← List.count] at single
  have working : (g.fan.parked.map Prod.snd ++ g.inHand).map Arrival.worker ⊆
      g.fan.workers.map Prod.fst := by
    intro k hk
    obtain ⟨a, ha, rfl⟩ := List.mem_map.1 hk
    rw [List.mem_map]
    obtain ha | ha := List.mem_append.1 ha
    · obtain ⟨q, hq, rfl⟩ := List.mem_map.1 ha
      rw [h.own q hq]
      exact h.orderly.atWork q hq
    · exact h.atWork a ha
  simpa only [List.length_map] using (List.subperm_of_subset distinct working).length_le

variable (p : Supply ω κ σ)

theorem acceptStream_of_isParked {k : Nat} (waits : g.fan.isParked k = true) :
    g.acceptStream p k = g := by
  have busy : g.isBusy k = true := by rw [isBusy, waits, Bool.true_or]
  rw [acceptStream, busy]
  split
  · rename_i free
    cases free
  · rfl

theorem accepted_move_of_still {k : Nat} (still : g.acceptStream p k = g) (m : Move ω) :
    ofWorker k (g.move p m).accepted = ofWorker k g.accepted := by
  cases m with
  | acceptStream j =>
      by_cases own : j = k
      · subst own
        rw [move, still]
      · rw [move, acceptStream]
        split
        · split
          · rfl
          · rw [ofWorker_append, ofWorker_singleton_of_ne own, List.append_nil]
          · rfl
        · rfl
  | elsewhere w => rfl
  | acceptConnection | stopAccepting | giveUp j | offer j | accept caller =>
      simp only [move, acceptConnection, stopAccepting, giveUp, offer, accept]
      repeat' split
      all_goals rfl

theorem accepted_move_of_isParked {k : Nat} (waits : g.fan.isParked k = true) (m : Move ω) :
    ofWorker k (g.move p m).accepted = ofWorker k g.accepted :=
  accepted_move_of_still p (acceptStream_of_isParked p waits) m

end Gathering

namespace Attended

variable {ω κ σ : Type}

/-- Handing a stream to a call that waits is a move of the call. -/
theorem attend_eq (p : Supply ω κ σ) (g : Attended ω κ σ) : ∃ moves,
    g.attend.gathering = g.gathering.run p moves ∧
      g.attend.gathering.accepted = g.gathering.accepted := by
  unfold attend
  split
  · rename_i caller others r waiting taken
    refine ⟨[.accept caller], rfl, ?_⟩
    rw [Gathering.accept, taken]
  · exact ⟨[], rfl, rfl⟩

variable (p : Supply ω κ σ)

theorem act_eq (g : Attended ω κ σ) (a : Act ω) :
    ∃ moves, (g.act p a).gathering = g.gathering.run p moves := by
  cases a with
  | move m =>
      obtain ⟨moves, same, -⟩ := attend_eq p { g with gathering := g.gathering.move p m }
      exact ⟨m :: moves, same⟩
  | ahead m => exact ⟨[m], rfl⟩
  | call caller =>
      obtain ⟨moves, same, -⟩ := attend_eq p { g with waiting := g.waiting ++ [caller] }
      exact ⟨moves, same⟩
  | abandon caller => exact ⟨[], rfl⟩

theorem run_eq (g : Attended ω κ σ) (acts : List (Act ω)) :
    ∃ moves, (g.run p acts).gathering = g.gathering.run p moves := by
  induction acts generalizing g with
  | nil => exact ⟨[], rfl⟩
  | cons a acts ih =>
      obtain ⟨first, now⟩ := act_eq p g a
      obtain ⟨moves, later⟩ := ih (g.act p a)
      refine ⟨first ++ moves, ?_⟩
      rw [Gathering.run, List.foldl_append]
      rw [now] at later
      exact later

theorem accepted_act_of_isParked {g : Attended ω κ σ} {k : Nat}
    (waits : g.gathering.fan.isParked k = true) (a : Act ω) :
    ofWorker k (g.act p a).gathering.accepted = ofWorker k g.gathering.accepted := by
  cases a with
  | move m =>
      obtain ⟨-, -, same⟩ := attend_eq p { g with gathering := g.gathering.move p m }
      rw [act, same]
      exact Gathering.accepted_move_of_isParked p waits m
  | ahead m => exact Gathering.accepted_move_of_isParked p waits m
  | call caller =>
      obtain ⟨-, -, same⟩ := attend_eq p { g with waiting := g.waiting ++ [caller] }
      rw [act, same]
  | abandon caller => rfl

/-- Whatever happens, the queue takes no more streams than it has room for, and each worker has one
at most that it has accepted and not queued. So there are no more streams that nobody has got, and
that were not dropped, than the queue takes and workers are at work. A worker waits only while the
queue is full, and accepts nothing while it waits. -/
theorem backlog_is_bounded (capacity : Nat) (w : ω) (acts : List (Act ω)) :
    let a : Attended ω κ σ := (start capacity w).run p acts
    let g := a.gathering
    g.fan.queue.length ≤ max capacity 1 ∧
      (∀ k, (g.held k).length ≤ 1) ∧
      g.accepted.length ≤ g.returned.length + g.dropped.length +
        (max capacity 1 + g.fan.workers.length) ∧
      (g.fan.workers.map Prod.fst).Nodup ∧
      (∀ k, g.fan.isParked k = true → g.fan.queue.length = max capacity 1 ∧
        g.acceptStream p k = g ∧
        ∀ next, ofWorker k (a.act p next).gathering.accepted = ofWorker k g.accepted) := by
  intro a g
  obtain ⟨moves, told⟩ := run_eq p (start capacity w : Attended ω κ σ) acts
  have same : g = (Gathering.start capacity w).run p moves := told
  have sound : g.Sound := by
    rw [same]
    exact (Gathering.sound_start capacity w).run p moves
  have capacity_eq : g.fan.capacity = max capacity 1 := by
    rw [same]
    exact Gathering.capacity_run p (Gathering.start capacity w) moves
  have room : g.fan.queue.length ≤ max capacity 1 := by
    rw [← capacity_eq]
    exact sound.orderly.room
  refine ⟨room, sound.single, ?_, sound.orderly.distinct, fun k waits => ⟨?_, ?_, ?_⟩⟩
  · have counted := sound.length_accepted
    have few := sound.length_held_le
    omega
  · rw [← capacity_eq]
    apply sound.orderly.full
    intro none_waits
    simp [isParked, none_waits] at waits
  · exact Gathering.acceptStream_of_isParked p waits
  · exact fun next => accepted_act_of_isParked p waits next

end Attended

end TransportStack.FanIn
