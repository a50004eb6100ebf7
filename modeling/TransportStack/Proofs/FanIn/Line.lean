import Mathlib.Data.List.Nodup
import TransportStack.Demux.FanIn

/-!
The queue of a demultiplexed listener together with the streams that wait for room in it. Both are
one line: offering adds at its end and taking removes its head, whoever waits. A worker that leaves
takes its own stream out of the line and no other.
-/

namespace TransportStack.FanIn

variable {κ σ : Type}

/-- The streams that were offered and not taken, in the order in which they will come out. -/
def line (f : FanIn κ σ) : List σ := f.queue ++ f.parked.map Prod.snd

def connection? (f : FanIn κ σ) (worker : Nat) : Option κ :=
  (f.workers.find? fun x => x.1 == worker).map Prod.snd

def AtWork (f : FanIn κ σ) (worker : Nat) : Prop := ∃ x ∈ f.workers, x.1 = worker

/-- What holds of the queue and its tasks at all times: streams wait only while the queue is full,
and each worker, known by a number of its own, waits with one stream at most. -/
structure Orderly (f : FanIn κ σ) : Prop where
  room : f.queue.length ≤ f.capacity
  full : f.parked ≠ [] → f.queue.length = f.capacity
  distinct : (f.workers.map Prod.fst).Nodup
  counted : ∀ x ∈ f.workers, x.1 < f.count
  atWork : ∀ q ∈ f.parked, f.AtWork q.1
  once : (f.parked.map Prod.fst).Nodup

theorem atWork_of_connection? {f : FanIn κ σ} {worker : Nat} {c : κ}
    (h : f.connection? worker = some c) : f.AtWork worker := by
  obtain ⟨x, hx, -⟩ := Option.map_eq_some_iff.1 h
  have same := List.find?_some hx
  exact ⟨x, List.mem_of_find?_eq_some hx, eq_of_beq same⟩

theorem connection?_of_mem {f : FanIn κ σ} (h : (f.workers.map Prod.fst).Nodup) {worker : Nat}
    {c : κ} (hm : (worker, c) ∈ f.workers) : f.connection? worker = some c := by
  unfold connection?
  cases hf : f.workers.find? fun x => x.1 == worker with
  | none =>
      rw [List.find?_eq_none] at hf
      exact absurd (beq_self_eq_true worker) (hf _ hm)
  | some x =>
      have number := List.find?_some hf
      have same : x = (worker, c) :=
        List.inj_on_of_nodup_map h (List.mem_of_find?_eq_some hf) hm (eq_of_beq number)
      rw [same]
      rfl

theorem isParked_eq_false_iff {f : FanIn κ σ} {worker : Nat} :
    f.isParked worker = false ↔ ∀ q ∈ f.parked, q.1 ≠ worker := by
  simp [isParked]

theorem atWork_congr {f f' : FanIn κ σ} (same : f'.workers = f.workers) (worker : Nat) :
    f'.AtWork worker ↔ f.AtWork worker := by
  rw [AtWork, AtWork, same]

theorem atWork_assign_iff (f : FanIn κ σ) (c : κ) (worker : Nat) :
    (f.assign c).AtWork worker ↔ f.AtWork worker ∨ worker = f.count := by
  constructor
  · rintro ⟨x, hx, rfl⟩
    obtain hx | hx := List.mem_append.1 hx
    · exact .inl ⟨x, hx, rfl⟩
    · rw [List.mem_singleton.1 hx]
      exact .inr rfl
  · rintro (⟨x, hx, rfl⟩ | rfl)
    · exact ⟨x, List.mem_append_left _ hx, rfl⟩
    · exact ⟨_, List.mem_append_right _ (List.mem_singleton_self _), rfl⟩

theorem atWork_leave_iff (f : FanIn κ σ) (gone worker : Nat) :
    (f.leave gone).AtWork worker ↔ f.AtWork worker ∧ worker ≠ gone := by
  constructor
  · rintro ⟨x, hx, rfl⟩
    obtain ⟨hx, other⟩ := List.mem_filter.1 hx
    exact ⟨⟨x, hx, rfl⟩, by simpa using other⟩
  · rintro ⟨⟨x, hx, rfl⟩, other⟩
    exact ⟨x, List.mem_filter.2 ⟨hx, by simpa using other⟩, rfl⟩

theorem connection?_eq_none_iff {f : FanIn κ σ} {worker : Nat} :
    f.connection? worker = none ↔ ¬f.AtWork worker := by
  rw [connection?, Option.map_eq_none_iff, List.find?_eq_none]
  simp only [beq_iff_eq, AtWork, not_exists, not_and]

/-- A worker that is not there takes nothing with it. -/
theorem leave_eq_self {f : FanIn κ σ} (atWork : ∀ q ∈ f.parked, f.AtWork q.1) {worker : Nat}
    (gone : ¬f.AtWork worker) : f.leave worker = f := by
  have parked : (f.parked.filter fun q => q.1 != worker) = f.parked := by
    refine List.filter_eq_self.2 fun q hq => ?_
    rw [bne_iff_ne]
    rintro rfl
    exact gone (atWork q hq)
  have workers : (f.workers.filter fun x => x.1 != worker) = f.workers := by
    refine List.filter_eq_self.2 fun x hx => ?_
    rw [bne_iff_ne]
    rintro rfl
    exact gone ⟨x, hx, rfl⟩
  rw [leave, parked, workers]

theorem line_leave_subset (f : FanIn κ σ) (worker : Nat) : (f.leave worker).line ⊆ f.line := by
  intro s hs
  obtain hs | hs := List.mem_append.1 hs
  · exact List.mem_append_left _ hs
  · exact List.mem_append_right _ (List.map_subset _ ((List.filter_subset_self _)) hs)

/-- A worker that does not wait takes nothing out of the line when it leaves. -/
theorem line_leave_of_free {f : FanIn κ σ} {worker : Nat} (free : f.isParked worker = false) :
    (f.leave worker).line = f.line := by
  have stays : (f.parked.filter fun q => q.1 != worker) = f.parked :=
    List.filter_eq_self.2 fun q hq => by simpa using isParked_eq_false_iff.1 free q hq
  rw [line, line, leave, stays]

theorem orderly_start (capacity : Nat) : (start capacity : FanIn κ σ).Orderly where
  room := Nat.zero_le _
  full h := absurd rfl h
  distinct := List.nodup_nil
  counted _ h := nomatch h
  atWork _ h := nomatch h
  once := List.nodup_nil

theorem Orderly.assign {f : FanIn κ σ} (h : f.Orderly) (c : κ) : (f.assign c).Orderly where
  room := h.room
  full := h.full
  distinct := by
    simp only [FanIn.assign, List.map_append, List.map_cons, List.map_nil]
    refine List.nodup_append.2 ⟨h.distinct, List.nodup_singleton _, ?_⟩
    intro k hk j hj
    obtain ⟨x, hx, rfl⟩ := List.mem_map.1 hk
    rw [List.mem_singleton.1 hj]
    exact Nat.ne_of_lt (h.counted x hx)
  counted := by
    intro x hx
    obtain hx | hx := List.mem_append.1 hx
    · exact Nat.lt_succ_of_lt (h.counted x hx)
    · rw [List.mem_singleton.1 hx]
      exact Nat.lt_succ_self _
  atWork q hq := by
    obtain ⟨x, hx, same⟩ := h.atWork q hq
    exact ⟨x, List.mem_append_left _ hx, same⟩
  once := h.once

theorem Orderly.stopAccepting {f : FanIn κ σ} (h : f.Orderly) : f.stopAccepting.Orderly :=
  ⟨h.room, h.full, h.distinct, h.counted, h.atWork, h.once⟩

/-- A stream that is offered goes to the end of the line. -/
theorem Orderly.line_offer {f : FanIn κ σ} (h : f.Orderly) (worker : Nat) (s : σ) :
    (f.offer worker s).line = f.line ++ [s] := by
  unfold offer
  split
  · rename_i room
    -- With room in the queue nobody waits, so that its end is the end of the line.
    have none_waits : f.parked = [] :=
      Classical.byContradiction fun some_wait => absurd (h.full some_wait) (Nat.ne_of_lt room)
    simp [line, none_waits]
  · simp [line]

theorem Orderly.offer {f : FanIn κ σ} (h : f.Orderly) {worker : Nat} (working : f.AtWork worker)
    (free : f.isParked worker = false) (s : σ) : (f.offer worker s).Orderly := by
  unfold FanIn.offer
  split
  · rename_i room
    refine ⟨?_, ?_, h.distinct, h.counted, h.atWork, h.once⟩
    · simpa only [List.length_append, List.length_singleton] using Nat.succ_le_of_lt room
    · intro some_wait
      exact absurd (h.full some_wait) (Nat.ne_of_lt room)
  · rename_i no_room
    refine ⟨h.room, fun _ => ?_, h.distinct, h.counted, ?_, ?_⟩
    · exact Nat.le_antisymm h.room (Nat.le_of_not_lt no_room)
    · intro q hq
      obtain hq | hq := List.mem_append.1 hq
      · exact h.atWork q hq
      · rw [List.mem_singleton.1 hq]
        exact working
    · simp only [List.map_append, List.map_cons, List.map_nil]
      refine List.nodup_append.2 ⟨h.once, List.nodup_singleton _, ?_⟩
      intro k hk j hj
      obtain ⟨q, hq, rfl⟩ := List.mem_map.1 hk
      rw [List.mem_singleton.1 hj]
      exact isParked_eq_false_iff.1 free q hq

theorem Orderly.leave {f : FanIn κ σ} (h : f.Orderly) (worker : Nat) :
    (f.leave worker).Orderly where
  room := h.room
  full some_wait := by
    apply h.full
    intro none_waits
    apply some_wait
    simp [FanIn.leave, none_waits]
  distinct := h.distinct.sublist (List.filter_sublist.map _)
  counted x hx := h.counted x (List.mem_filter.1 hx).1
  atWork q hq := by
    obtain ⟨hq, other⟩ := List.mem_filter.1 hq
    obtain ⟨x, hx, same⟩ := h.atWork q hq
    refine ⟨x, List.mem_filter.2 ⟨hx, ?_⟩, same⟩
    rw [same]
    exact other
  once := h.once.sublist (List.filter_sublist.map _)

theorem line_of_take? {f f' : FanIn κ σ} {s : σ} (h : f.take? = some (s, f')) :
    f.line = s :: f'.line := by
  unfold take? at h
  split at h
  · cases h
  · rename_i head rest queued
    cases h
    cases waiting : f.parked with
    | nil => simp [line, promote, queued, waiting]
    | cons q qs => simp [line, promote, queued, waiting]

theorem workers_of_take? {f f' : FanIn κ σ} {s : σ} (h : f.take? = some (s, f')) :
    f'.workers = f.workers ∧ f'.count = f.count ∧ f'.capacity = f.capacity ∧
      f'.accepting = f.accepting ∧ f'.parked.Sublist f.parked := by
  unfold take? at h
  split at h
  · cases h
  · cases h
    cases waiting : f.parked with
    | nil => simp [promote]
    | cons q qs => simp [promote]

theorem workers_of_offer (f : FanIn κ σ) (worker : Nat) (s : σ) :
    (f.offer worker s).workers = f.workers ∧ (f.offer worker s).count = f.count ∧
      (f.offer worker s).accepting = f.accepting := by
  unfold offer
  split <;> exact ⟨rfl, rfl, rfl⟩

theorem capacity_offer (f : FanIn κ σ) (worker : Nat) (s : σ) :
    (f.offer worker s).capacity = f.capacity := by
  unfold offer
  split <;> rfl

theorem parked_offer_sublist (f : FanIn κ σ) (worker : Nat) (s : σ) :
    (f.offer worker s).parked.Sublist (f.parked ++ [(worker, s)]) := by
  unfold offer
  split
  · exact List.sublist_append_left _ _
  · exact List.Sublist.refl _

theorem mem_line_offer {f : FanIn κ σ} {worker : Nat} {s x : σ}
    (h : x ∈ (f.offer worker s).line) : x ∈ f.line ∨ x = s := by
  unfold offer at h
  split at h
  all_goals
    simp only [line, List.mem_append, List.map_append, List.map_cons, List.map_nil,
      List.mem_singleton] at h ⊢
    tauto

theorem isParked_of_subset {f f' : FanIn κ σ} (fewer : f'.parked ⊆ f.parked) {worker : Nat}
    (free : f.isParked worker = false) : f'.isParked worker = false := by
  rw [isParked_eq_false_iff] at free ⊢
  exact fun q hq => free q (fewer hq)

theorem isParked_offer {f : FanIn κ σ} {worker other : Nat} (free : f.isParked other = false)
    (apart : other ≠ worker) (s : σ) : (f.offer worker s).isParked other = false := by
  rw [isParked_eq_false_iff] at free ⊢
  intro q hq
  obtain hq | hq := List.mem_append.1 ((f.parked_offer_sublist worker s).subset hq)
  · exact free q hq
  · rw [List.mem_singleton.1 hq]
    exact apart.symm

theorem Orderly.take? {f f' : FanIn κ σ} (h : f.Orderly) {s : σ}
    (ht : f.take? = some (s, f')) : f'.Orderly := by
  unfold FanIn.take? at ht
  split at ht
  · cases ht
  · rename_i head rest queued
    cases ht
    have fits : rest.length + 1 ≤ f.capacity := by
      simpa only [queued, List.length_cons] using h.room
    cases waiting : f.parked with
    | nil =>
        simp only [promote]
        exact ⟨Nat.le_of_succ_le fits, fun some_wait => absurd rfl some_wait, h.distinct,
          h.counted, fun _ hq => (nomatch hq), List.nodup_nil⟩
    | cons q qs =>
        simp only [promote]
        have filled : rest.length + 1 = f.capacity := by
          simpa only [queued, List.length_cons] using
            h.full (by simp only [waiting, ne_eq, reduceCtorEq, not_false_eq_true])
        have once := h.once
        rw [waiting, List.map_cons, List.nodup_cons] at once
        refine ⟨?_, fun _ => ?_, h.distinct, h.counted, ?_, once.2⟩
        · simpa only [List.length_append, List.length_singleton] using fits
        · simpa only [List.length_append, List.length_singleton] using filled
        · intro q' hq'
          exact h.atWork q' (by rw [waiting]; exact List.mem_cons_of_mem _ hq')

section

variable {ω : Type} {p : Supply ω κ σ} {f f' : FanIn κ σ} {w w' : ω}

/-- All that a call of the listener can come to. -/
theorem accept_cases (p : Supply ω κ σ) (f : FanIn κ σ) (w : ω) :
    p.isShut w = true ∧ f.accept p w = (.failed .closed, f) ∨
      p.isShut w = false ∧ f.take? = none ∧ f.accept p w = (.pending, f) ∨
      p.isShut w = false ∧ ∃ s f', f.take? = some (s, f') ∧ f.accept p w = (.ready s, f') := by
  cases shut : p.isShut w with
  | true => exact .inl ⟨rfl, by simp [accept, shut]⟩
  | false =>
      cases taken : f.take? with
      | none => exact .inr (.inl ⟨rfl, rfl, by simp [accept, shut, taken]⟩)
      | some r => exact .inr (.inr ⟨rfl, r.1, r.2, rfl, by simp [accept, shut, taken]⟩)

/-- All that a step of the task that accepts connections can be. -/
theorem acceptorStep?_cases (step : f.acceptorStep? p w = some (f', w')) :
    f.accepting = true ∧ (p.isShut w = true ∧ f' = f.stopAccepting ∧ w' = w ∨
      p.isShut w = false ∧
        ((∃ c, p.acceptConnection w = (.done (.ok c), w') ∧ f' = f.assign c) ∨
          ∃ e w₁, p.acceptConnection w = (.done (.error e), w₁) ∧ f' = f.stopAccepting ∧
            w' = p.shut w₁)) := by
  unfold acceptorStep? at step
  split at step
  · cases step
  · rename_i accepting
    refine ⟨by simpa using accepting, ?_⟩
    cases shut : p.isShut w with
    | true =>
        simp only [shut, if_true, Option.some.injEq, Prod.mk.injEq] at step
        exact .inl ⟨rfl, step.1.symm, step.2.symm⟩
    | false =>
        simp only [shut, Bool.false_eq_true, if_false] at step
        split at step
        · cases step
        · rename_i c w₁ found
          cases step
          exact .inr ⟨rfl, .inl ⟨c, found, rfl⟩⟩
        · rename_i e w₁ failed
          cases step
          exact .inr ⟨rfl, .inr ⟨e, w₁, failed, rfl, rfl⟩⟩

/-- All that a step of a worker can be. -/
theorem workerStep?_cases {worker : Nat} {c : κ}
    (step : f.workerStep? p worker c w = some (f', w')) :
    p.isShut w = true ∧ f' = f.leave worker ∧ w' = w ∨
      p.isShut w = false ∧ f.isParked worker = false ∧
        ((∃ s, p.acceptStream c w = (.done (.ok s), w') ∧ f' = f.offer worker s) ∨
          ∃ e w₁, p.acceptStream c w = (.done (.error e), w₁) ∧ f' = f.leave worker ∧
            w' = if p.isClosed c w₁ then w₁ else p.close c w₁) := by
  unfold workerStep? at step
  cases shut : p.isShut w with
  | true =>
      simp only [shut, if_true, Option.some.injEq, Prod.mk.injEq] at step
      exact .inl ⟨rfl, step.1.symm, step.2.symm⟩
  | false =>
      simp only [shut, Bool.false_eq_true, if_false] at step
      split at step
      · cases step
      · rename_i unparked
        refine .inr ⟨rfl, Bool.eq_false_iff.2 unparked, ?_⟩
        split at step
        · cases step
        · rename_i s w₁ accepted
          cases step
          exact .inl ⟨s, accepted, rfl⟩
        · rename_i e w₁ failed
          cases step
          exact .inr ⟨e, w₁, failed, rfl, rfl⟩

end

end TransportStack.FanIn
