import Mathlib.Data.List.Induction
import TransportStack.Proofs.FanIn.Interleaving

/-!
No stream that a worker accepts is lost or handed out twice. In every order of moves each stream is
in one place: with a caller, in the queue, or with its worker, and it is dropped only by a worker
that has seen the shutdown. Callers get the streams in the order in which they were offered, and
those of one connection in the order in which they were accepted.
-/

namespace TransportStack.FanIn

section

variable {σ : Type}

@[simp] theorem ofWorker_nil (worker : Nat) : ofWorker worker ([] : List (Arrival σ)) = [] := rfl

@[simp] theorem ofWorker_append (worker : Nat) (xs ys : List (Arrival σ)) :
    ofWorker worker (xs ++ ys) = ofWorker worker xs ++ ofWorker worker ys :=
  List.filter_append xs ys

theorem ofWorker_singleton_of_eq (a : Arrival σ) : ofWorker a.worker [a] = [a] := by
  simp [ofWorker]

theorem ofWorker_singleton_of_ne {a : Arrival σ} {worker : Nat} (h : a.worker ≠ worker) :
    ofWorker worker [a] = [] := by
  simp [ofWorker, h]

theorem mem_ofWorker {a : Arrival σ} {worker : Nat} {xs : List (Arrival σ)} :
    a ∈ ofWorker worker xs ↔ a ∈ xs ∧ a.worker = worker := by
  simp [ofWorker]

theorem ofWorker_eq_nil_iff {worker : Nat} {xs : List (Arrival σ)} :
    ofWorker worker xs = [] ↔ ∀ a ∈ xs, a.worker ≠ worker := by
  simp [ofWorker]

theorem ofWorker_without (worker k : Nat) (xs : List (Arrival σ)) :
    ofWorker k (xs.filter fun a => a.worker != worker) =
      if k = worker then [] else ofWorker k xs := by
  induction xs with
  | nil => simp
  | cons a xs ih =>
      simp only [ofWorker, List.filter_cons] at ih ⊢
      by_cases ha : a.worker = worker
      · by_cases hk : k = worker
        · subst hk
          simp_all
        · have other : a.worker ≠ k := fun h => hk (h.symm.trans ha)
          simp_all
      · by_cases hk : a.worker = k <;> simp_all

/-- Lists with the same streams of each worker have the same streams. -/
theorem perm_of_ofWorker {xs ys : List (Arrival σ)}
    (h : ∀ k, ofWorker k xs = ofWorker k ys) : xs.Perm ys := by
  classical
  rw [List.perm_iff_count]
  intro a
  have counted (zs : List (Arrival σ)) : (ofWorker a.worker zs).count a = zs.count a :=
    List.count_filter (beq_self_eq_true a.worker)
  rw [← counted xs, ← counted ys, h]

end

namespace Gathering

variable {ω κ σ : Type}

/-- What holds after all moves. -/
structure Sound (g : Gathering ω κ σ) : Prop where
  orderly : g.fan.Orderly
  places : g.accepted.map Arrival.place = List.range g.accepted.length
  numbered : ∀ a ∈ g.accepted, a.worker < g.fan.count
  own : ∀ q ∈ g.fan.parked, q.2.worker = q.1
  atWork : ∀ a ∈ g.inHand, g.fan.AtWork a.worker
  single : ∀ k, (g.held k).length ≤ 1
  /-- A worker at work has dropped nothing. -/
  clean : ∀ k, g.fan.AtWork k → ofWorker k g.dropped = []
  /-- What a worker accepted is kept, but for the last stream at most. -/
  shares : ∀ k, ofWorker k g.accepted = ofWorker k g.kept ++ ofWorker k g.inHand ++
    ofWorker k g.dropped
  order : g.kept = g.offered.filter fun a => decide (a.place ∉ g.dropped.map Arrival.place)

theorem sound_start (capacity : Nat) (w : ω) : (start capacity w : Gathering ω κ σ).Sound where
  orderly := orderly_start capacity
  places := rfl
  numbered _ h := nomatch h
  own _ h := nomatch h
  atWork _ h := nomatch h
  single _ := Nat.zero_le _
  clean _ _ := rfl
  shares _ := rfl
  order := rfl

/-- Each accepted stream is in exactly one place. -/
theorem Sound.perm {g : Gathering ω κ σ} (h : g.Sound) :
    g.accepted.Perm (g.kept ++ g.inHand ++ g.dropped) := by
  apply perm_of_ofWorker
  intro k
  simp only [ofWorker_append]
  exact h.shares k

theorem Sound.nodup {g : Gathering ω κ σ} (h : g.Sound) :
    (g.accepted.map Arrival.place).Nodup := by
  rw [h.places]
  exact List.nodup_range

theorem Sound.nodup_places {g : Gathering ω κ σ} (h : g.Sound) :
    ((g.kept ++ g.inHand ++ g.dropped).map Arrival.place).Nodup :=
  (h.perm.map Arrival.place).nodup_iff.1 h.nodup

theorem Sound.mem_accepted {g : Gathering ω κ σ} (h : g.Sound) {a : Arrival σ}
    (ha : a ∈ g.kept ∨ a ∈ g.inHand ∨ a ∈ g.dropped) : a ∈ g.accepted := by
  rw [h.perm.mem_iff, List.mem_append, List.mem_append, or_assoc]
  exact ha

theorem Sound.eq_of_place {g : Gathering ω κ σ} (h : g.Sound) {a b : Arrival σ}
    (ha : a ∈ g.kept ∨ a ∈ g.inHand ∨ a ∈ g.dropped)
    (hb : b ∈ g.kept ∨ b ∈ g.inHand ∨ b ∈ g.dropped) (same : a.place = b.place) : a = b :=
  List.inj_on_of_nodup_map h.nodup (h.mem_accepted ha) (h.mem_accepted hb) same

/-- What has left the hands of the workers is apart from what they hold. -/
theorem Sound.ne_of_held {g : Gathering ω κ σ} (h : g.Sound) {a b : Arrival σ}
    (ha : a ∈ g.returned.map Prod.snd ++ g.fan.queue)
    (hb : b ∈ g.fan.parked.map Prod.snd ++ g.inHand) : a.place ≠ b.place := by
  have apart : ((g.returned.map Prod.snd ++ g.fan.queue ++
      (g.fan.parked.map Prod.snd ++ g.inHand)).map Arrival.place).Nodup := by
    have apart := h.nodup_places
    rw [List.map_append, List.nodup_append] at apart
    simpa only [kept, FanIn.line, List.append_assoc] using apart.1
  rw [List.map_append, List.nodup_append] at apart
  exact apart.2.2 _ (List.mem_map_of_mem ha) _ (List.mem_map_of_mem hb)

theorem isBusy_eq_false_iff {g : Gathering ω κ σ} {k : Nat} :
    g.isBusy k = false ↔ g.fan.isParked k = false ∧ ∀ a ∈ g.inHand, a.worker ≠ k := by
  simp [isBusy]

theorem Sound.held_of_free {g : Gathering ω κ σ} (h : g.Sound) {k : Nat}
    (free : g.isBusy k = false) : g.held k = [] := by
  obtain ⟨unparked, empty_handed⟩ := isBusy_eq_false_iff.1 free
  rw [held, ofWorker_eq_nil_iff]
  intro a ha
  obtain ha | ha := List.mem_append.1 ha
  · obtain ⟨q, hq, rfl⟩ := List.mem_map.1 ha
    rw [h.own q hq]
    exact isParked_eq_false_iff.1 unparked q hq
  · exact empty_handed a ha

theorem Sound.elsewhere {g : Gathering ω κ σ} (h : g.Sound) (w : ω) :
    { g with world := w }.Sound :=
  ⟨h.orderly, h.places, h.numbered, h.own, h.atWork, h.single, h.clean, h.shares, h.order⟩

theorem Sound.assign {g : Gathering ω κ σ} (h : g.Sound) (c : κ) :
    { g with fan := g.fan.assign c }.Sound where
  orderly := h.orderly.assign c
  places := h.places
  numbered a ha := Nat.lt_succ_of_lt (h.numbered a ha)
  own := h.own
  atWork a ha := by
    obtain ⟨x, hx, same⟩ := h.atWork a ha
    exact ⟨x, List.mem_append_left _ hx, same⟩
  single := h.single
  clean := by
    rintro k ⟨x, hx, rfl⟩
    obtain hx | hx := List.mem_append.1 hx
    · exact h.clean _ ⟨x, hx, rfl⟩
    · -- A new worker has a number that no stream has.
      rw [List.mem_singleton.1 hx, ofWorker_eq_nil_iff]
      intro a ha
      exact Nat.ne_of_lt (h.numbered a (h.mem_accepted (.inr (.inr ha))))
  shares := h.shares
  order := h.order

theorem Sound.stop {g : Gathering ω κ σ} (h : g.Sound) :
    { g with fan := g.fan.stopAccepting }.Sound :=
  ⟨h.orderly.stopAccepting, h.places, h.numbered, h.own, h.atWork, h.single, h.clean, h.shares,
    h.order⟩

theorem Sound.receive {g : Gathering ω κ σ} (h : g.Sound) {k : Nat} (working : g.fan.AtWork k)
    (free : g.isBusy k = false) (s : σ) :
    { g with
      inHand := g.inHand ++ [Arrival.mk k g.accepted.length s]
      accepted := g.accepted ++ [Arrival.mk k g.accepted.length s] }.Sound := by
  have holds_nothing := h.held_of_free free
  constructor
  case orderly => exact h.orderly
  case places =>
    simp only [List.map_append, h.places, List.map_cons, List.map_nil, List.length_append,
      List.length_singleton, List.range_succ]
  case numbered =>
    intro a ha
    obtain ha | ha := List.mem_append.1 ha
    · exact h.numbered a ha
    · obtain ⟨x, hx, rfl⟩ := working
      rw [List.mem_singleton.1 ha]
      exact h.orderly.counted x hx
  case own => exact h.own
  case atWork =>
    intro a ha
    obtain ha | ha := List.mem_append.1 ha
    · exact h.atWork a ha
    · rw [List.mem_singleton.1 ha]
      exact working
  case single =>
    intro j
    simp only [held, ← List.append_assoc]
    rw [ofWorker_append]
    change (g.held j ++ _).length ≤ 1
    by_cases hj : k = j
    · subst hj
      rw [holds_nothing]
      exact List.length_filter_le _ _
    · rw [ofWorker_singleton_of_ne hj, List.append_nil]
      exact h.single j
  case clean => exact h.clean
  case shares =>
    intro j
    rw [ofWorker_append, ofWorker_append, h.shares j]
    by_cases hj : k = j
    · subst hj
      rw [h.clean k working]
      simp only [List.append_nil, List.append_assoc]
      rfl
    · rw [ofWorker_singleton_of_ne hj, List.append_nil, List.append_nil]
      rfl
  case order => exact h.order

theorem Sound.alone {g : Gathering ω κ σ} (h : g.Sound) {a : Arrival σ} (ha : a ∈ g.inHand) :
    ofWorker a.worker (g.fan.parked.map Prod.snd) = [] ∧ ofWorker a.worker g.inHand = [a] := by
  have single := h.single a.worker
  rw [held, ofWorker_append, List.length_append] at single
  have mine : a ∈ ofWorker a.worker g.inHand := mem_ofWorker.2 ⟨ha, rfl⟩
  have some_mine := List.length_pos_of_mem mine
  obtain ⟨b, hb⟩ := List.length_eq_one_iff.1 (show (ofWorker a.worker g.inHand).length = 1 by omega)
  rw [hb, List.mem_singleton] at mine
  subst mine
  refine ⟨List.eq_nil_of_length_eq_zero ?_, hb⟩
  omega

theorem Sound.present {g : Gathering ω κ σ} (h : g.Sound) {a : Arrival σ} (ha : a ∈ g.inHand) :
    { g with
      fan := g.fan.offer a.worker a
      inHand := g.inHand.filter fun b => b.worker != a.worker
      offered := g.offered ++ [a] }.Sound := by
  obtain ⟨parks_none, in_hand⟩ := h.alone ha
  have unparked : g.fan.isParked a.worker = false := by
    rw [isParked_eq_false_iff]
    intro q hq
    rw [← h.own q hq]
    exact ofWorker_eq_nil_iff.1 parks_none q.2 (List.mem_map_of_mem hq)
  obtain ⟨same_workers, same_count, -⟩ := workers_of_offer g.fan a.worker a
  have atWork_iff := atWork_congr same_workers
  have kept_offer : g.returned.map Prod.snd ++ (g.fan.offer a.worker a).line = g.kept ++ [a] := by
    rw [h.orderly.line_offer, kept, List.append_assoc]
  constructor
  case orderly => exact h.orderly.offer (h.atWork a ha) unparked a
  case places => exact h.places
  case numbered =>
    intro b hb
    exact Nat.lt_of_lt_of_eq (h.numbered b hb) same_count.symm
  case own =>
    intro q hq
    obtain hq | hq := List.mem_append.1 ((g.fan.parked_offer_sublist a.worker a).subset hq)
    · exact h.own q hq
    · rw [List.mem_singleton.1 hq]
  case atWork =>
    intro b hb
    exact (atWork_iff _).2 (h.atWork b (List.mem_filter.1 hb).1)
  case single =>
    intro k
    have parked := g.fan.parked_offer_sublist a.worker a
    have holds := ((parked.map Prod.snd).filter fun b => b.worker == k).length_le
    simp only [held, ofWorker_append, ofWorker_without, List.length_append]
    have single := h.single k
    rw [held, ofWorker_append, List.length_append] at single
    rw [List.map_append, List.filter_append, List.length_append] at holds
    change (ofWorker k _).length ≤ (ofWorker k _).length + (ofWorker k [a]).length at holds
    by_cases hk : k = a.worker
    · subst hk
      rw [parks_none, ofWorker_singleton_of_eq] at holds
      simpa using holds
    · rw [ofWorker_singleton_of_ne (Ne.symm hk)] at holds
      rw [if_neg hk]
      exact Nat.le_trans (Nat.add_le_add_right holds _) single
  case clean =>
    intro k hk
    exact h.clean k ((atWork_iff k).1 hk)
  case shares =>
    intro k
    change ofWorker k g.accepted = ofWorker k (_ ++ (g.fan.offer a.worker a).line) ++ _ ++ _
    rw [kept_offer, ofWorker_append, ofWorker_without, h.shares k]
    by_cases hk : k = a.worker
    · subst hk
      rw [if_pos rfl, in_hand, ofWorker_singleton_of_eq, List.append_nil]
    · rw [if_neg hk, ofWorker_singleton_of_ne (Ne.symm hk), List.append_nil]
  case order =>
    change _ ++ (g.fan.offer a.worker a).line = _
    have not_dropped : a.place ∉ g.dropped.map Arrival.place := by
      have apart := h.nodup_places
      rw [List.map_append, List.nodup_append] at apart
      intro hd
      refine apart.2.2 a.place ?_ a.place hd rfl
      exact List.mem_map_of_mem (List.mem_append_right _ ha)
    rw [kept_offer, h.order, List.filter_append]
    simp only [List.filter_cons, not_dropped, not_false_eq_true, decide_true, if_true,
      List.filter_nil]

private theorem parked_without {ps : List (Nat × Arrival σ)} (own : ∀ q ∈ ps, q.2.worker = q.1)
    (k : Nat) : (ps.filter fun q => q.1 != k).map Prod.snd =
      (ps.map Prod.snd).filter fun a => a.worker != k := by
  rw [List.filter_map]
  congr 1
  apply List.filter_congr
  intro q hq
  simp only [Function.comp_apply, own q hq]

private theorem Sound.line_leave {g : Gathering ω κ σ} (h : g.Sound) (k : Nat) :
    (g.fan.leave k).line =
      g.fan.queue ++ (g.fan.parked.map Prod.snd).filter fun a => a.worker != k := by
  rw [← parked_without h.own]
  rfl

/-- What is left of the kept streams when a worker leaves are those that it does not hold. -/
private theorem Sound.filter_held {g : Gathering ω κ σ} (h : g.Sound) (k : Nat) :
    g.kept.filter (fun a => decide (a.place ∉ (g.held k).map Arrival.place)) =
      g.returned.map Prod.snd ++ (g.fan.leave k).line := by
  have stays : (g.returned.map Prod.snd ++ g.fan.queue).filter
      (fun a => decide (a.place ∉ (g.held k).map Arrival.place)) =
        g.returned.map Prod.snd ++ g.fan.queue := by
    rw [List.filter_eq_self]
    intro a ha
    rw [decide_eq_true_iff]
    intro hd
    obtain ⟨b, hb, same⟩ := List.mem_map.1 hd
    exact h.ne_of_held ha (mem_ofWorker.1 hb).1 same.symm
  have goes : (g.fan.parked.map Prod.snd).filter
      (fun a => decide (a.place ∉ (g.held k).map Arrival.place)) =
        (g.fan.parked.map Prod.snd).filter fun a => a.worker != k := by
    apply List.filter_congr
    intro a ha
    have waits : a ∈ g.kept := List.mem_append_right _ (List.mem_append_right _ ha)
    rw [Bool.eq_iff_iff, decide_eq_true_iff, bne_iff_ne]
    constructor
    · intro hd mine
      exact hd (List.mem_map_of_mem (mem_ofWorker.2 ⟨List.mem_append_left _ ha, mine⟩))
    · intro other hd
      obtain ⟨b, hb, same⟩ := List.mem_map.1 hd
      obtain ⟨hb, mine⟩ := mem_ofWorker.1 hb
      have hb : b ∈ g.kept ∨ b ∈ g.inHand ∨ b ∈ g.dropped := by
        obtain hb | hb := List.mem_append.1 hb
        · exact .inl (List.mem_append_right _ (List.mem_append_right _ hb))
        · exact .inr (.inl hb)
      rw [h.eq_of_place hb (.inl waits) same] at mine
      exact other mine
  rw [h.line_leave, kept, FanIn.line, ← List.append_assoc, List.filter_append, stays, goes,
    List.append_assoc]

theorem Sound.leave {g : Gathering ω κ σ} (h : g.Sound) {k : Nat} (working : g.fan.AtWork k) :
    { g with
      fan := g.fan.leave k
      inHand := g.inHand.filter fun a => a.worker != k
      dropped := g.dropped ++ g.held k }.Sound := by
  have held_of_ne {j : Nat} (hj : j ≠ k) : ofWorker j (g.held k) = [] := by
    rw [ofWorker_eq_nil_iff]
    intro a ha
    rw [(mem_ofWorker.1 ha).2]
    exact Ne.symm hj
  have held_self : ofWorker k (g.held k) = g.held k := by
    rw [ofWorker, List.filter_eq_self]
    intro a ha
    exact beq_iff_eq.2 (mem_ofWorker.1 ha).2
  constructor
  case orderly => exact h.orderly.leave k
  case places => exact h.places
  case numbered => exact h.numbered
  case own =>
    intro q hq
    exact h.own q (List.mem_filter.1 hq).1
  case atWork =>
    intro a ha
    obtain ⟨ha, other⟩ := List.mem_filter.1 ha
    exact (atWork_leave_iff _ _ _).2 ⟨h.atWork a ha, by simpa using other⟩
  case single =>
    intro j
    change (ofWorker j ((g.fan.parked.filter fun q => q.1 != k).map Prod.snd ++ _)).length ≤ 1
    rw [parked_without h.own, ofWorker_append, ofWorker_without, ofWorker_without]
    by_cases hj : j = k
    · rw [if_pos hj, if_pos hj]
      exact Nat.zero_le _
    · rw [if_neg hj, if_neg hj, ← ofWorker_append]
      exact h.single j
  case clean =>
    intro j hj
    obtain ⟨hj, other⟩ := (atWork_leave_iff _ _ _).1 hj
    rw [ofWorker_append, h.clean j hj, held_of_ne other, List.append_nil]
  case shares =>
    intro j
    change ofWorker j g.accepted =
      ofWorker j (g.returned.map Prod.snd ++ (g.fan.leave k).line) ++ _ ++ _
    have before := h.shares j
    simp only [kept, FanIn.line, ofWorker_append] at before
    simp only [h.line_leave, ofWorker_append, ofWorker_without]
    by_cases hj : j = k
    · subst hj
      rw [if_pos rfl, if_pos rfl, h.clean j working, held_self, before, h.clean j working, held,
        ofWorker_append]
      simp only [List.append_assoc, List.append_nil, List.nil_append]
    · rw [if_neg hj, if_neg hj, held_of_ne hj, List.append_nil, before]
  case order =>
    change g.returned.map Prod.snd ++ (g.fan.leave k).line = _
    rw [← h.filter_held, h.order, List.filter_filter]
    apply List.filter_congr
    intro a _
    simp only [List.map_append, List.mem_append, not_or, Bool.decide_and, Bool.and_comm]

theorem Sound.take {g : Gathering ω κ σ} (h : g.Sound) {a : Arrival σ} {fan : FanIn κ (Arrival σ)}
    (taken : g.fan.take? = some (a, fan)) (caller : Nat) :
    { g with fan, returned := g.returned ++ [(caller, a)] }.Sound := by
  obtain ⟨same_workers, same_count, -, -, fewer⟩ := workers_of_take? taken
  have atWork_iff := atWork_congr same_workers
  have same_kept : (g.returned ++ [(caller, a)]).map Prod.snd ++ fan.line = g.kept := by
    rw [kept, line_of_take? taken]
    simp only [List.map_append, List.map_cons, List.map_nil, List.append_assoc,
      List.singleton_append]
  constructor
  case orderly => exact h.orderly.take? taken
  case places => exact h.places
  case numbered =>
    intro b hb
    exact Nat.lt_of_lt_of_eq (h.numbered b hb) same_count.symm
  case own =>
    intro q hq
    exact h.own q (fewer.subset hq)
  case atWork =>
    intro b hb
    exact (atWork_iff _).2 (h.atWork b hb)
  case single =>
    intro k
    have holds := (((fewer.map Prod.snd).append_right g.inHand).filter
      fun b => b.worker == k).length_le
    exact Nat.le_trans holds (h.single k)
  case clean =>
    intro k hk
    exact h.clean k ((atWork_iff k).1 hk)
  case shares =>
    intro k
    change _ = ofWorker k (_ ++ fan.line) ++ _ ++ _
    rw [same_kept]
    exact h.shares k
  case order =>
    change _ ++ fan.line = _
    rw [same_kept]
    exact h.order

variable (p : Supply ω κ σ)

theorem Sound.move {g : Gathering ω κ σ} (h : g.Sound) (m : Move ω) : (g.move p m).Sound := by
  cases m with
  | elsewhere w => exact h.elsewhere w
  | acceptConnection =>
      simp only [Gathering.move, acceptConnection]
      split
      · split
        · exact h
        · exact (h.assign _).elsewhere _
        · exact h.stop.elsewhere _
      · exact h
  | stopAccepting =>
      simp only [Gathering.move, stopAccepting]
      split
      · exact h.stop
      · exact h
  | acceptStream k =>
      simp only [Gathering.move, acceptStream]
      split
      · rename_i c found free
        have working := atWork_of_connection? found
        split
        · exact h
        · exact (h.receive working free _).elsewhere _
        · -- A worker that holds nothing leaves without dropping anything.
          have same_hands : (g.inHand.filter fun a => a.worker != k) = g.inHand := by
            rw [List.filter_eq_self]
            intro a ha
            exact bne_iff_ne.2 ((isBusy_eq_false_iff.1 free).2 a ha)
          have left := h.leave working
          rw [h.held_of_free free, List.append_nil, same_hands] at left
          exact left.elsewhere _
      · exact h
  | offer k =>
      simp only [Gathering.move, offer]
      split
      · rename_i a found
        have mine := List.find?_some found
        cases eq_of_beq mine
        exact h.present (List.mem_of_find?_eq_some found)
      · exact h
  | giveUp k =>
      simp only [Gathering.move, giveUp]
      split
      · rename_i c found shut
        exact h.leave (atWork_of_connection? found)
      · exact h
  | accept caller =>
      simp only [Gathering.move, accept]
      split
      · rename_i a fan taken
        exact h.take taken caller
      · exact h

theorem Sound.run {g : Gathering ω κ σ} (h : g.Sound) (moves : List (Move ω)) :
    (g.run p moves).Sound := by
  induction moves generalizing g with
  | nil => exact h
  | cons m moves ih => exact ih (h.move p m)

/-- A move drops only what a worker holds, and only after a shutdown. -/
theorem dropped_move {g : Gathering ω κ σ} {m : Move ω} {a : Arrival σ}
    (h : a ∈ (g.move p m).dropped) :
    a ∈ g.dropped ∨ p.isShut g.world = true ∧ a ∈ g.held a.worker := by
  cases m with
  | giveUp k =>
      simp only [Gathering.move, giveUp] at h
      split at h
      · rename_i c found shut
        obtain h | h := List.mem_append.1 h
        · exact .inl h
        · rw [(mem_ofWorker.1 h).2]
          exact .inr ⟨shut, h⟩
      · exact .inl h
  | elsewhere w => exact .inl h
  | acceptConnection | stopAccepting | acceptStream k | offer k | accept caller =>
      simp only [Gathering.move, acceptConnection, stopAccepting, acceptStream, offer, accept] at h
      repeat' split at h
      all_goals exact .inl h

/-- What was dropped was held by its worker at a moment after a shutdown. -/
theorem shut_of_dropped (g : Gathering ω κ σ) (moves : List (Move ω)) {a : Arrival σ}
    (h : a ∈ (g.run p moves).dropped) : a ∈ g.dropped ∨ ∃ before after, moves = before ++ after ∧
      p.isShut (g.run p before).world = true ∧ a ∈ (g.run p before).held a.worker := by
  induction moves using List.reverseRecOn with
  | nil => exact .inl h
  | append_singleton moves m ih =>
      rw [Gathering.run, List.foldl_append] at h
      obtain h | ⟨shut, h⟩ := dropped_move p h
      · obtain h | ⟨before, after, rfl, found⟩ := ih h
        · exact .inl h
        · exact .inr ⟨before, after ++ [m], by rw [List.append_assoc], found⟩
      · exact .inr ⟨moves, [m], rfl, shut, h⟩

theorem capacity_move (g : Gathering ω κ σ) (m : Move ω) :
    (g.move p m).fan.capacity = g.fan.capacity := by
  cases m with
  | elsewhere w => rfl
  | acceptConnection | stopAccepting | acceptStream k | giveUp k =>
      simp only [Gathering.move, acceptConnection, stopAccepting, acceptStream, giveUp]
      repeat' split
      all_goals rfl
  | offer k =>
      simp only [Gathering.move, offer]
      split
      · simp only [FanIn.offer]
        split <;> rfl
      · rfl
  | accept caller =>
      simp only [Gathering.move, accept]
      split
      · rename_i a fan taken
        exact (workers_of_take? taken).2.2.1
      · rfl

theorem capacity_run (g : Gathering ω κ σ) (moves : List (Move ω)) :
    (g.run p moves).fan.capacity = g.fan.capacity := by
  induction moves generalizing g with
  | nil => rfl
  | cons m moves ih => exact (ih (g.move p m)).trans (g.capacity_move p m)

/-- In every order of moves, each accepted stream is in exactly one place: with a caller, in the
queue, waiting for room or in the hand of its own worker, which holds no other, or dropped by its
worker after a shutdown. Callers get of each connection a first part of what was accepted on it. All
streams come out in the order in which they were offered, those that wait for room too, which they
do only while the queue is full. -/
theorem streams_conserved_in_order (capacity : Nat) (w : ω) (moves : List (Move ω)) :
    let g := (start capacity w : Gathering ω κ σ).run p moves
    let out := g.returned.map Prod.snd
    let waiting := g.fan.parked.map Prod.snd
    (g.accepted.map Arrival.place).Nodup ∧
      g.accepted.Perm (out ++ g.fan.queue ++ waiting ++ g.inHand ++ g.dropped) ∧
      (∀ q ∈ g.fan.parked, q.2.worker = q.1) ∧
      (∀ a ∈ waiting ++ g.inHand, g.fan.AtWork a.worker) ∧
      (∀ k, (g.held k).length ≤ 1) ∧
      (∀ a ∈ g.dropped, ∃ before after, moves = before ++ after ∧
        let g := (start capacity w : Gathering ω κ σ).run p before
        p.isShut g.world = true ∧ a ∈ g.held a.worker) ∧
      (∀ k, ofWorker k out <+: ofWorker k g.accepted) ∧
      out ++ g.fan.queue ++ waiting =
        g.offered.filter (fun a => decide (a.place ∉ g.dropped.map Arrival.place)) ∧
      (waiting ≠ [] → g.fan.queue.length = max capacity 1) := by
  intro g out waiting
  have h : g.Sound := (sound_start capacity w).run p moves
  have kept_eq : out ++ g.fan.queue ++ waiting = g.kept := List.append_assoc _ _ _
  refine ⟨h.nodup, ?_, h.own, ?_, h.single, ?_, ?_, ?_, ?_⟩
  · rw [kept_eq]
    exact h.perm
  · intro a ha
    obtain ha | ha := List.mem_append.1 ha
    · obtain ⟨q, hq, rfl⟩ := List.mem_map.1 ha
      rw [h.own q hq]
      exact h.orderly.atWork q hq
    · exact h.atWork a ha
  · intro a ha
    obtain ha | found := shut_of_dropped p _ moves ha
    · cases ha
    · exact found
  · intro k
    rw [h.shares k, kept, ofWorker_append]
    simp only [List.append_assoc]
    exact List.prefix_append _ _
  · rw [kept_eq]
    exact h.order
  · intro some_wait
    rw [show max capacity 1 = g.fan.capacity from (capacity_run p (start capacity w) moves).symm]
    apply h.orderly.full
    intro none_waits
    apply some_wait
    simp only [waiting, none_waits, List.map_nil]

end Gathering

end TransportStack.FanIn
