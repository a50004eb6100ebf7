import TransportStack.Proofs.FanIn.Conservation

/-!
A demultiplexed listener without one of its workers, beside the same listener with that worker,
whose connection gives it nothing. What lies beneath is the same in both but for that connection.
Then both go on alike in all moves: the worker holds nothing, so that its absence cannot be seen in
what becomes of the streams.
-/

namespace TransportStack.FanIn

variable {ω κ σ : Type}

/-- A connection that is closed stays closed, whatever is done with the others. -/
structure Supply.Lasting (p : Supply ω κ σ) (c : κ) (others : κ → Prop) : Prop where
  shut {w : ω} : p.isClosed c w = true → p.isClosed c (p.shut w) = true
  acceptConnection {w : ω} : p.isClosed c w = true → p.isClosed c (p.acceptConnection w).2 = true
  acceptStream {w : ω} {d : κ} : others d → p.isClosed c w = true →
    p.isClosed c (p.acceptStream d w).2 = true
  close {w : ω} {d : κ} : others d → p.isClosed c w = true → p.isClosed c (p.close d w) = true

/-- A connection is apart from the others: worlds that are alike differ in this connection only. Of
the first one nothing is known, and in the second one the connection is quiet. -/
structure Supply.Isolates (p : Supply ω κ σ) (c : κ) (others : κ → Prop)
    (alike : ω → ω → Prop) : Prop where
  /-- Closing the connection fires its signal. -/
  fires (w : ω) : p.isClosed c (p.close c w) = true
  lasting : p.Lasting c others
  fails {w w' w₁ : ω} {e : TransportError} : alike w w' →
    p.acceptStream c w = (.failed e, w₁) → alike w₁ w'
  closes {w w' : ω} : alike w w' → alike (p.close c w) w'
  quiet {w w' : ω} : alike w w' → (p.acceptStream c w').1 = .pending
  isShut {w w' : ω} : alike w w' → p.isShut w = p.isShut w'
  shut {w w' : ω} : alike w w' → alike (p.shut w) (p.shut w')
  connects {w w' : ω} {d : κ} : alike w w' → (p.acceptConnection w).1 = .ready d → others d
  acceptConnection {w w' : ω} : alike w w' →
    (p.acceptConnection w).1 = (p.acceptConnection w').1 ∧
      alike (p.acceptConnection w).2 (p.acceptConnection w').2
  acceptStream {w w' : ω} {d : κ} : others d → alike w w' →
    (p.acceptStream d w).1 = (p.acceptStream d w').1 ∧
      alike (p.acceptStream d w).2 (p.acceptStream d w').2
  isClosed {w w' : ω} {d : κ} : others d → alike w w' → p.isClosed d w = p.isClosed d w'
  close {w w' : ω} {d : κ} : others d → alike w w' → alike (p.close d w) (p.close d w')

/-- The same move in two worlds. What happens beneath is alike. -/
inductive Move.Alike (alike : ω → ω → Prop) : Move ω → Move ω → Prop
  | elsewhere {w w' : ω} (h : alike w w') : Move.Alike alike (.elsewhere w) (.elsewhere w')
  | acceptConnection : Move.Alike alike .acceptConnection .acceptConnection
  | stopAccepting : Move.Alike alike .stopAccepting .stopAccepting
  | acceptStream (worker : Nat) : Move.Alike alike (.acceptStream worker) (.acceptStream worker)
  | offer (worker : Nat) : Move.Alike alike (.offer worker) (.offer worker)
  | giveUp (worker : Nat) : Move.Alike alike (.giveUp worker) (.giveUp worker)
  | accept (caller : Nat) : Move.Alike alike (.accept caller) (.accept caller)

section

variable {f : FanIn κ σ} {k : Nat}

theorem connection?_leave_of_ne {j : Nat} (other : j ≠ k) :
    (f.leave k).connection? j = f.connection? j := by
  rw [connection?, connection?, leave, List.find?_filter]
  congr 2
  funext x
  by_cases hit : x.1 = j
  · simp [hit, other]
  · simp [hit]

theorem mem_of_connection? {j : Nat} {d : κ} (h : f.connection? j = some d) :
    (j, d) ∈ f.workers := by
  obtain ⟨x, found, rfl⟩ := Option.map_eq_some_iff.1 h
  have same := List.find?_some found
  rw [← eq_of_beq same]
  exact List.mem_of_find?_eq_some found

theorem not_atWork_leave : ¬(f.leave k).AtWork k := fun h => ((atWork_leave_iff f k k).1 h).2 rfl

@[simp] theorem accepting_leave : (f.leave k).accepting = f.accepting := rfl

theorem leave_leave : (f.leave k).leave k = f.leave k := by
  simp [leave]

theorem leave_comm (j : Nat) : (f.leave j).leave k = (f.leave k).leave j := by
  simp [leave, List.filter_filter, Bool.and_comm]

theorem leave_assign (c : κ) (numbered : k < f.count) :
    (f.assign c).leave k = (f.leave k).assign c := by
  simp [leave, assign, List.filter_append, Nat.ne_of_gt numbered]

/-- A worker that does not wait leaves nothing behind. -/
theorem leave_of_free (free : f.isParked k = false) :
    f.leave k = { f with workers := f.workers.filter fun x => x.1 != k } := by
  have stays : (f.parked.filter fun q => q.1 != k) = f.parked := by
    refine List.filter_eq_self.2 fun q hq => ?_
    simpa using isParked_eq_false_iff.1 free q hq
  rw [leave, stays]

theorem isParked_leave_of_ne {j : Nat} (other : j ≠ k) :
    (f.leave k).isParked j = f.isParked j := by
  rw [Bool.eq_iff_iff]
  simp only [isParked, leave, List.any_eq_true, List.mem_filter, bne_iff_ne, beq_iff_eq]
  constructor
  · rintro ⟨q, ⟨hq, -⟩, rfl⟩
    exact ⟨q, hq, rfl⟩
  · rintro ⟨q, hq, rfl⟩
    exact ⟨q, ⟨hq, other⟩, rfl⟩

theorem leave_offer {j : Nat} (other : j ≠ k) (s : σ) :
    (f.offer j s).leave k = (f.leave k).offer j s := by
  have room : (f.leave k).queue.length < (f.leave k).capacity ↔ f.queue.length < f.capacity :=
    Iff.rfl
  unfold offer
  split
  · rename_i has_room
    rw [if_pos (room.2 has_room)]
    rfl
  · rename_i no_room
    rw [if_neg fun has_room => no_room (room.1 has_room)]
    simp [leave, List.filter_append, other]

/-- Whether a worker that does not wait is there cannot be seen by those who take. -/
theorem take?_leave (free : f.isParked k = false) :
    (f.leave k).take? = f.take?.map fun r => (r.1, r.2.leave k) := by
  cases taken : f.take? with
  | none =>
      unfold take? at taken ⊢
      cases queued : f.queue <;> simp_all [leave]
  | some r =>
      have free' : r.2.isParked k = false :=
        isParked_of_subset (workers_of_take? taken).2.2.2.2.subset free
      rw [leave_of_free free, Option.map_some, leave_of_free free']
      unfold take? at taken ⊢
      cases queued : f.queue with
      | nil => simp [queued] at taken
      | cons s ss =>
          simp only [queued, Option.some.injEq] at taken
          subst taken
          cases f.parked <;> simp [promote]

end

namespace Gathering

/-- The same streams in the same places, but without a worker, in another world. -/
def without (k : Nat) (w : ω) (g : Gathering ω κ σ) : Gathering ω κ σ :=
  { g with fan := g.fan.leave k, world := w }

@[simp] theorem fan_without (k : Nat) (w : ω) (g : Gathering ω κ σ) :
    (g.without k w).fan = g.fan.leave k := rfl

@[simp] theorem world_without (k : Nat) (w : ω) (g : Gathering ω κ σ) :
    (g.without k w).world = w := rfl

/-- The worker of the connection holds nothing, if it has not left, and all other workers have other
connections. -/
structure Idle (c : κ) (others : κ → Prop) (k : Nat) (g : Gathering ω κ σ) : Prop where
  unparked : g.fan.isParked k = false
  empty_handed : ∀ a ∈ g.inHand, a.worker ≠ k
  numbered : k < g.fan.count
  mine : ∀ x ∈ g.fan.workers, x.1 = k → x.2 = c
  others : ∀ x ∈ g.fan.workers, x.1 ≠ k → others x.2

/-- A listener without the worker, beside one with it, in worlds that are alike. -/
structure Beside (c : κ) (others : κ → Prop) (alike : ω → ω → Prop) (k : Nat)
    (f g : Gathering ω κ σ) : Prop where
  same : f = g.without k f.world
  world : alike f.world g.world
  idle : g.Idle c others k

variable {p : Supply ω κ σ} {c : κ} {others : κ → Prop} {alike : ω → ω → Prop}
  {f g g' : Gathering ω κ σ} {k : Nat} {w : ω}

theorem Beside.eq_without (h : Beside c others alike k f g) :
    ∃ w, f = g.without k w ∧ alike w g.world ∧ g.Idle c others k :=
  ⟨f.world, h.same, h.world, h.idle⟩

theorem isBusy_without {j : Nat} (other : j ≠ k) : (g.without k w).isBusy j = g.isBusy j := by
  rw [isBusy, isBusy, without, isParked_leave_of_ne other]

theorem Idle.held_without (h : g.Idle c others k) (j : Nat) :
    (g.without k w).held j = g.held j := by
  rw [held, held, without, leave_of_free h.unparked]

theorem Idle.held (h : g.Idle c others k) (own : ∀ q ∈ g.fan.parked, q.2.worker = q.1) :
    g.held k = [] := by
  rw [Gathering.held, ofWorker_eq_nil_iff]
  intro a ha
  obtain ha | ha := List.mem_append.1 ha
  · obtain ⟨q, hq, rfl⟩ := List.mem_map.1 ha
    rw [own q hq]
    exact isParked_eq_false_iff.1 h.unparked q hq
  · exact h.empty_handed a ha

theorem Idle.of_fewer (h : g.Idle c others k) (parked : g'.fan.parked ⊆ g.fan.parked)
    (inHand : g'.inHand ⊆ g.inHand) (workers : g'.fan.workers ⊆ g.fan.workers)
    (count : g'.fan.count = g.fan.count) : g'.Idle c others k where
  unparked := isParked_of_subset parked h.unparked
  empty_handed a ha := h.empty_handed a (inHand ha)
  numbered := count ▸ h.numbered
  mine x hx := h.mine x (workers hx)
  others x hx := h.others x (workers hx)

theorem Idle.assign (h : g.Idle c others k) {d : κ} (other : others d) :
    { g with fan := g.fan.assign d, world := w }.Idle c others k where
  unparked := h.unparked
  empty_handed := h.empty_handed
  numbered := Nat.lt_succ_of_lt h.numbered
  mine x hx number := by
    obtain hx | hx := List.mem_append.1 hx
    · exact h.mine x hx number
    · rw [List.mem_singleton.1 hx] at number
      exact absurd number (Nat.ne_of_gt h.numbered)
  others x hx number := by
    obtain hx | hx := List.mem_append.1 hx
    · exact h.others x hx number
    · rw [List.mem_singleton.1 hx]
      exact other

theorem Idle.leave (h : g.Idle c others k) (j : Nat) :
    { g with fan := g.fan.leave j, world := w }.Idle c others k :=
  h.of_fewer (List.filter_subset_self _) (List.Subset.refl _) (List.filter_subset_self _) rfl

theorem Idle.receive (h : g.Idle c others k) {a : Arrival σ} (other : a.worker ≠ k) :
    { g with
      world := w
      inHand := g.inHand ++ [a]
      accepted := g.accepted ++ [a] }.Idle c others k where
  unparked := h.unparked
  empty_handed b hb := by
    obtain hb | hb := List.mem_append.1 hb
    · exact h.empty_handed b hb
    · rw [List.mem_singleton.1 hb]
      exact other
  numbered := h.numbered
  mine := h.mine
  others := h.others

theorem Idle.offer (h : g.Idle c others k) {a : Arrival σ} {j : Nat} (other : j ≠ k) :
    { g with
      fan := g.fan.offer j a
      inHand := g.inHand.filter fun b => b.worker != j
      offered := g.offered ++ [a] }.Idle c others k := by
  obtain ⟨workers, count, -⟩ := workers_of_offer g.fan j a
  constructor
  case unparked => exact isParked_offer h.unparked (Ne.symm other) a
  case empty_handed => exact fun b hb => h.empty_handed b (List.mem_filter.1 hb).1
  case numbered => exact Nat.lt_of_lt_of_eq h.numbered count.symm
  case mine => exact fun x hx => h.mine x (workers ▸ hx)
  case others => exact fun x hx => h.others x (workers ▸ hx)

theorem Beside.acceptConnection (isolates : p.Isolates c others alike)
    (h : Beside c others alike k f g) :
    Beside c others alike k (f.acceptConnection p) (g.acceptConnection p) := by
  obtain ⟨w, rfl, alike_world, idle⟩ := h.eq_without
  have looked := isolates.acceptConnection alike_world
  have connects (d : κ) := isolates.connects (d := d) alike_world
  rcases found : p.acceptConnection w with ⟨r, w₁⟩
  rcases found' : p.acceptConnection g.world with ⟨r', w₂⟩
  rw [found] at connects
  rw [found, found'] at looked
  obtain ⟨rfl, later⟩ : r = r' ∧ alike w₁ w₂ := looked
  simp only [Gathering.acceptConnection, fan_without, world_without, accepting_leave, found, found']
  split
  · obtain _ | (e | d) := r
    · exact ⟨rfl, alike_world, idle⟩
    · exact ⟨rfl, isolates.shut later, idle.of_fewer (List.Subset.refl _) (List.Subset.refl _)
        (List.Subset.refl _) rfl⟩
    · refine ⟨?_, later, idle.assign (connects d rfl)⟩
      simp only [without, leave_assign d idle.numbered]
  · exact ⟨rfl, alike_world, idle⟩

theorem Beside.stopAccepting (isolates : p.Isolates c others alike)
    (h : Beside c others alike k f g) :
    Beside c others alike k (f.stopAccepting p) (g.stopAccepting p) := by
  obtain ⟨w, rfl, alike_world, idle⟩ := h.eq_without
  simp only [Gathering.stopAccepting, world_without, isolates.isShut alike_world]
  split
  · exact ⟨rfl, alike_world, idle.of_fewer (List.Subset.refl _) (List.Subset.refl _)
      (List.Subset.refl _) rfl⟩
  · exact ⟨rfl, alike_world, idle⟩

theorem Beside.not_atWork (h : Beside c others alike k f g) : ¬f.fan.AtWork k := by
  rw [h.same]
  exact not_atWork_leave

theorem Beside.workers (h : Beside c others alike k f g) : ∀ x ∈ f.fan.workers, others x.2 := by
  rw [h.same]
  intro x hx
  obtain ⟨hx, other⟩ := List.mem_filter.1 hx
  exact h.idle.others x hx (bne_iff_ne.1 other)

theorem acceptStream_of_not_atWork (gone : ¬f.fan.AtWork k) : f.acceptStream p k = f := by
  rw [Gathering.acceptStream, connection?_eq_none_iff.2 gone]

theorem Idle.acceptStream (isolates : p.Isolates c others alike) (h : g.Idle c others k)
    (same : alike w g.world) : g.acceptStream p k = g := by
  unfold Gathering.acceptStream
  split
  · rename_i d working free
    obtain rfl : d = c := h.mine _ (mem_of_connection? working) rfl
    have quiet := isolates.quiet same
    rcases found : p.acceptStream d g.world with ⟨r, w⟩
    obtain rfl : r = .pending := by rw [← quiet, found]
    rfl
  · rfl

theorem Beside.acceptStream_of_ne (isolates : p.Isolates c others alike)
    (h : Beside c others alike k f g) {j : Nat} (other : j ≠ k) :
    Beside c others alike k (f.acceptStream p j) (g.acceptStream p j) := by
  obtain ⟨w, rfl, alike_world, idle⟩ := h.eq_without
  simp only [Gathering.acceptStream, fan_without, world_without, connection?_leave_of_ne other,
    isBusy_without other]
  split
  · rename_i d working free
    have beside := idle.others _ (mem_of_connection? working) other
    have looked := isolates.acceptStream beside alike_world
    rcases found : p.acceptStream d w with ⟨r, w₁⟩
    rcases found' : p.acceptStream d g.world with ⟨r', w₂⟩
    rw [found, found'] at looked
    obtain ⟨rfl, later⟩ : r = r' ∧ alike w₁ w₂ := looked
    obtain _ | (e | s) := r
    · exact ⟨rfl, alike_world, idle⟩
    · simp only [isolates.isClosed beside later]
      refine ⟨?_, ?_, idle.leave j⟩
      · simp only [without, leave_comm]
      · simp only
        split
        · exact later
        · exact isolates.close beside later
    · exact ⟨rfl, later, idle.receive other⟩
  · exact ⟨rfl, alike_world, idle⟩

theorem Beside.offer (h : Beside c others alike k f g) (j : Nat) :
    Beside c others alike k (f.offer j) (g.offer j) := by
  obtain ⟨w, rfl, alike_world, idle⟩ := h.eq_without
  simp only [Gathering.offer, without]
  split
  · rename_i a found
    have number : a.worker = j := by simpa using List.find?_some found
    have other : j ≠ k := number ▸ idle.empty_handed a (List.mem_of_find?_eq_some found)
    refine ⟨?_, alike_world, ?_⟩
    · simp only [without, leave_offer other]
    · exact idle.offer other
  · exact ⟨rfl, alike_world, idle⟩

theorem Beside.giveUp (isolates : p.Isolates c others alike) (h : Beside c others alike k f g)
    (own : ∀ q ∈ g.fan.parked, q.2.worker = q.1) (j : Nat) :
    Beside c others alike k (f.giveUp p j) (g.giveUp p j) := by
  obtain ⟨w, rfl, alike_world, idle⟩ := h.eq_without
  have shut := isolates.isShut alike_world
  by_cases other : j = k
  · -- The worker leaves where it is there, and has nothing to drop.
    subst other
    have not_there : (g.without j w).giveUp p j = g.without j w := by
      rw [Gathering.giveUp, fan_without, connection?_eq_none_iff.2 not_atWork_leave]
    rw [not_there, Gathering.giveUp]
    split
    · have hands : (g.inHand.filter fun a => a.worker != j) = g.inHand :=
        List.filter_eq_self.2 fun a ha => bne_iff_ne.2 (idle.empty_handed a ha)
      simp only [hands, idle.held own, List.append_nil]
      refine ⟨?_, alike_world, idle.leave j⟩
      simp only [without, leave_leave]
    · exact ⟨rfl, alike_world, idle⟩
  · simp only [Gathering.giveUp, fan_without, world_without, connection?_leave_of_ne other, shut,
      idle.held_without]
    split
    · refine ⟨?_, alike_world, ?_⟩
      · simp only [without, leave_comm]
      · exact idle.of_fewer (List.filter_subset_self _) (List.filter_subset_self _)
          (List.filter_subset_self _) rfl
    · exact ⟨rfl, alike_world, idle⟩

theorem Beside.accept (h : Beside c others alike k f g) (caller : Nat) :
    Beside c others alike k (f.accept caller) (g.accept caller) := by
  obtain ⟨w, rfl, alike_world, idle⟩ := h.eq_without
  simp only [Gathering.accept, fan_without, take?_leave idle.unparked]
  cases taken : g.fan.take? with
  | none => exact ⟨rfl, alike_world, idle⟩
  | some r =>
      obtain ⟨workers, count, -, -, parked⟩ := workers_of_take? taken
      refine ⟨rfl, alike_world, idle.of_fewer parked.subset (List.Subset.refl _) ?_ count⟩
      exact workers ▸ List.Subset.refl _

theorem Beside.move (isolates : p.Isolates c others alike) (h : Beside c others alike k f g)
    (sound : g.Sound) {m m' : Move ω} (moves : m.Alike alike m') :
    Beside c others alike k (f.move p m) (g.move p m') := by
  cases moves with
  | elsewhere later =>
      refine ⟨?_, later, h.idle.of_fewer (List.Subset.refl _) (List.Subset.refl _)
        (List.Subset.refl _) rfl⟩
      rw [h.same]
      rfl
  | acceptConnection => exact h.acceptConnection isolates
  | stopAccepting => exact h.stopAccepting isolates
  | acceptStream j =>
      by_cases other : j = k
      · -- The worker is not there to ask, and gets nothing where it is there.
        subst other
        simp only [Gathering.move, acceptStream_of_not_atWork h.not_atWork,
          h.idle.acceptStream isolates h.world]
        exact h
      · exact h.acceptStream_of_ne isolates other
  | offer j => exact h.offer j
  | giveUp j => exact h.giveUp isolates sound.own j
  | accept caller => exact h.accept caller

/-- Both go on alike in all moves. -/
theorem Beside.run (isolates : p.Isolates c others alike) (h : Beside c others alike k f g)
    (sound : g.Sound) {moves moves' : List (Move ω)}
    (same : List.Forall₂ (Move.Alike alike) moves moves') :
    Beside c others alike k (f.run p moves) (g.run p moves') := by
  induction same generalizing f g with
  | nil => exact h
  | cons first _ ih => exact ih (h.move isolates sound first) (sound.move p _)

end Gathering

end TransportStack.FanIn
