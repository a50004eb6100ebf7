import TransportStack.Proofs.Tunnel.Using

/-!
Which sessions have been closed when nothing is left to do: those that the dialer has abandoned and
whose workers do not wait for room in the queue. Without the program this comes about after a while,
since whatever happens leaves less to do.
-/

namespace TransportStack.Tunnel

variable {address : String} {p : Parameters} {N k : Nat} {f : FanIn Socket Stream} {t : Tunnel}

private theorem exists_of_mem_getD {α β : Type} {o : Option α} {g : α → List β} {y : β}
    (h : y ∈ (o.map g).getD []) : ∃ a, o = some a ∧ y ∈ g a := by
  cases o with
  | none => exact nomatch h
  | some a => exact ⟨a, rfl, h⟩

theorem sessionHalf_not_mem_holdings (s : Stream) (i : Nat) (side : Half) :
    .sessionHalf i side ∉ s.holdings := by
  induction s with
  | piped s => simp [Stream.holdings]
  | single inner signal socket? ih =>
      cases socket? <;> simpa [Stream.holdings] using ih
  | recorded => simp [Stream.holdings]

theorem sessionHalf_not_mem_flatMap (xs : List Stream) (i : Nat) (side : Half) :
    .sessionHalf i side ∉ xs.flatMap Stream.holdings := by
  intro held
  obtain ⟨x, -, own⟩ := List.mem_flatMap.1 held
  exact sessionHalf_not_mem_holdings x i side own

theorem sessionHalf_not_mem_producer (d : Producer) (i : Nat) (side : Half) :
    .sessionHalf i side ∉ d.holdings := by
  simp [Producer.holdings]

namespace Sound

/-- Nobody holds the dialing half of a session that is not the last one. -/
theorem first_unheld (h : Sound address p N k f t) {j : Nat}
    (earlier : j + 1 < t.network.sessions.length) :
    .sessionHalf j .first ∉ t.network.held t.roots := by
  have start : ∀ x, t.network.Grasps t.roots x → x ≠ .sessionHalf j .first := by
    rintro x (root | ⟨d, hd, task⟩) rfl
    · obtain root | held := List.mem_append.1 root
      · obtain dialer | listener := List.mem_append.1 root
        · exact sessionHalf_not_mem_producer _ _ _ dialer
        · rw [h.listener] at listener
          simp [StreamListener.holdings, MuxListener.holdings] at listener
      · exact sessionHalf_not_mem_flatMap _ _ _ held
    · rw [h.demuxers] at hd
      cases List.mem_singleton.1 hd
      simp only [Demuxer.taskHoldings, List.mem_append] at task
      obtain ((listener | worker) | parked) | queued := task
      · rw [h.accepting] at listener
        simp [MuxListener.holdings] at listener
      · obtain ⟨x, hx, own⟩ := List.mem_flatMap.1 worker
        rw [h.workers x hx] at own
        simp [Socket.holdings] at own
      · obtain ⟨q, -, own⟩ := List.mem_flatMap.1 parked
        exact sessionHalf_not_mem_holdings _ _ _ own
      · split at queued
        · exact absurd queued List.not_mem_nil
        · exact sessionHalf_not_mem_flatMap _ _ _ queued
  have closed : ∀ x, x ≠ .sessionHalf j .first → ∀ y ∈ t.network.heldBy x,
      y ≠ .sessionHalf j .first := by
    rintro x - y own rfl
    cases x with
    | pipeHalf | single => exact absurd own List.not_mem_nil
    | sessionHalf i side =>
        obtain ⟨s, -, own⟩ := exists_of_mem_getD own
        exact sessionHalf_not_mem_flatMap _ _ _ own
    | dialed i =>
        obtain ⟨s, -, own⟩ := exists_of_mem_getD own
        exact sessionHalf_not_mem_producer _ _ _ own
    | accepted i =>
        obtain ⟨s, -, own⟩ := exists_of_mem_getD own
        exact sessionHalf_not_mem_holdings _ _ _ own
    | rotation i =>
        obtain ⟨c, at_hand, own⟩ := exists_of_mem_getD own
        obtain ⟨r, hr, at_hand⟩ := Option.bind_eq_some_iff.1 at_hand
        obtain ⟨calls, -, rotations⟩ := h.rotations
        rw [rotations] at hr
        rw [List.mem_singleton.1 (List.mem_of_getElem? hr),
          if_neg (Nat.ne_of_gt (Nat.zero_lt_of_lt earlier))] at at_hand
        cases at_hand
        simp only [Socket.holdings, List.mem_singleton, Holding.sessionHalf.injEq] at own
        omega
    | streamBinding i =>
        obtain ⟨b, -, own⟩ := exists_of_mem_getD own
        exact sessionHalf_not_mem_flatMap _ _ _ own
    | socketBinding i =>
        obtain ⟨b, hb, own⟩ := exists_of_mem_getD own
        rw [h.sockets] at hb
        rw [List.mem_singleton.1 (List.mem_of_getElem? hb)] at own
        obtain ⟨c, hc, own⟩ := List.mem_flatMap.1 own
        obtain ⟨i, -, rfl⟩ := List.mem_map.1 hc
        simp [Socket.holdings] at own
    | demuxer i =>
        obtain ⟨d, -, own⟩ := exists_of_mem_getD own
        exact sessionHalf_not_mem_flatMap _ _ _ own
  intro held
  exact Network.held_within start closed _ held rfl

/-- The network stands still when no task of the listener can take a step. -/
theorem step?_eq_none_iff (h : Sound address p N k f t) :
    t.network.step? = none ↔ f.step?
      (Network.supply (Network.acceptOnMuxListener (.memory 0)) shutdown) t.network = none := by
  have noLink : t.network.linkStep? = none := by
    simp only [Network.linkStep?, h.links, List.find?_nil, Option.bind_eq_bind, Option.bind_none]
  have demux : t.network.demuxStep? 0 =
      (f.step? (Network.supply (Network.acceptOnMuxListener (.memory 0)) shutdown)
        t.network).bind fun r => some { r.2 with
          demuxers := r.2.demuxers.modify 0 fun d => { d with fan := r.1 } } := by
    simp only [Network.demuxStep?, h.demuxers, List.getElem?_cons_zero, Option.bind_eq_bind,
      Option.bind_some, Option.pure_def]
  have one : List.range t.network.demuxers.length = [0] := by
    rw [h.demuxers]
    rfl
  rw [Network.step?, noLink, Option.none_or, one, List.findSome?_singleton, demux]
  cases f.step? (Network.supply (Network.acceptOnMuxListener (.memory 0)) shutdown) t.network <;>
    simp only [Option.bind_none, Option.bind_some, reduceCtorEq]

/-- When no task can take a step, every session has got its worker, and every worker waits for room
or for a stream. -/
theorem tasks_wait (h : Sound address p N k f t) (still : t.network.step? = none) :
    f.count = t.network.sessions.length ∧
      ∀ j, f.AtWork j → f.isParked j = false → ∀ s, t.network.sessions[j]? = some s →
        s.halves.second.incoming = [] ∧ s.halves.first.released = false := by
  let supply := Network.supply (Network.acceptOnMuxListener (.memory 0)) shutdown
  have stuck : f.step? supply t.network = none := h.step?_eq_none_iff.1 still
  obtain ⟨acceptor, workers⟩ := Option.or_eq_none_iff.1 stuck
  constructor
  · have looked : f.acceptorStep? supply t.network = _ := h.acceptorStep?_eq
    rw [looked] at acceptor
    split at acceptor
    · cases acceptor
    · rename_i none_waits
      exact Nat.le_antisymm h.count (Nat.le_of_not_lt none_waits)
  · intro j working free s hs
    have looked : f.workerStep? supply j (.session j .second) t.network = _ :=
      h.workerStep?_eq working hs
    obtain ⟨x, hx, rfl⟩ := working
    have waits := List.findSome?_eq_none_iff.1 workers x hx
    rw [h.workers x hx, looked, free] at waits
    simp only [Bool.false_eq_true, if_false] at waits
    cases waiting : s.halves.second.incoming with
    | cons y rest => simp only [waiting, reduceCtorEq] at waits
    | nil =>
        refine ⟨rfl, ?_⟩
        simp only [waiting] at waits
        split at waits
        · cases waits
        · rename_i kept
          exact Bool.eq_false_iff.2 kept

/-- When nothing is left to do, the sessions that have been closed are those that were abandoned and
whose workers do not wait for room. -/
theorem closed_iff_of_settled (h : Sound address p N k f t) (settled : t.Settled) (j : Nat) :
    Closed N t j ↔ j + 1 < t.network.sessions.length ∧ f.isParked j = false := by
  obtain ⟨still, kept⟩ := settled
  obtain ⟨served, waits⟩ := h.tasks_wait still
  constructor
  · intro closed
    obtain ⟨counted, resigned⟩ := h.resigned j closed
    have within := Nat.lt_of_lt_of_le counted h.count
    have sound := h.session j _ (List.getElem?_eq_getElem within)
    refine ⟨sound.abandoned (sound.closed closed).1, ?_⟩
    rw [FanIn.isParked_eq_false_iff]
    rintro q hq rfl
    exact resigned (h.orderly.atWork q hq)
  · rintro ⟨earlier, free⟩
    have within := Nat.lt_of_succ_lt earlier
    have hs := List.getElem?_eq_getElem within
    obtain working | closed := h.served j (served ▸ within)
    · -- The worker would close the session if its dialing half were released.
      have unreleased : .sessionHalf j .first ∈ t.network.unreleased :=
        Network.mem_unreleased_sessionHalf hs (waits j working free _ hs).2
      exact absurd (Network.release?_eq_none_iff.1 kept _ unreleased) (h.first_unheld earlier)
    · exact closed

theorem step?_eq_none (h : Sound address p N k f t)
    (stuck : ∀ worker?, t.network.taskStep? 0 worker? = none) : t.network.step? = none := by
  rw [h.step?_eq_none_iff]
  refine Option.or_eq_none_iff.2 ⟨?_, List.findSome?_eq_none_iff.2 fun x hx => ?_⟩
  · have acceptor := stuck none
    simp only [Network.taskStep?, h.demuxers, List.getElem?_cons_zero, Option.bind_eq_bind,
      Option.bind_some, Option.pure_def, Option.bind_eq_none_iff, reduceCtorEq, imp_false]
      at acceptor
    exact Option.eq_none_iff_forall_ne_some.2 acceptor
  · have worker := stuck (some x.1)
    have connection : f.connection? x.1 = some x.2 :=
      FanIn.connection?_of_mem h.orderly.distinct hx
    simp only [Network.taskStep?, h.demuxers, List.getElem?_cons_zero, Option.bind_eq_bind,
      Option.bind_some, Option.pure_def, connection, Option.bind_eq_none_iff, reduceCtorEq,
      imp_false] at worker
    exact Option.eq_none_iff_forall_ne_some.2 worker

/-- Either nothing is left to do, or something happens without the program, after which less is
left. -/
theorem settled_or_act (h : Sound address p N k f t) :
    t.Settled ∨ ∃ a f', a.Unprompted ∧ Sound address p N k f' (t.act a) ∧
      f'.remaining (t.act a).network < f.remaining t.network := by
  by_cases stuck : ∀ worker?, t.network.taskStep? 0 worker? = none
  · cases released : t.network.release? t.roots with
    | none => exact .inl ⟨h.step?_eq_none stuck, released⟩
    | some n =>
        obtain ⟨sound, -, -, less⟩ := h.release released
        refine .inr ⟨.release, f, trivial, ?_⟩
        rw [Tunnel.act, released]
        exact ⟨sound, less⟩
  · obtain ⟨worker?, moves⟩ := Classical.not_forall.1 stuck
    obtain ⟨n, step⟩ := Option.ne_none_iff_exists'.1 moves
    obtain ⟨f', sound, -, -, less⟩ := h.taskStep step
    refine .inr ⟨.task worker?, f', trivial, ?_⟩
    rw [Tunnel.act, step]
    exact ⟨sound, less⟩

theorem settles (h : Sound address p N k f t) :
    ∃ acts : List Act, (∀ a ∈ acts, a.Unprompted) ∧ (t.run acts).Settled := by
  induction left : f.remaining t.network using Nat.strongRecOn generalizing f t with
  | ind left ih =>
      obtain settled | ⟨a, f', unprompted, sound, less⟩ := h.settled_or_act
      · exact ⟨[], fun _ none_left => absurd none_left List.not_mem_nil, settled⟩
      · obtain ⟨acts, others, settled⟩ := ih _ (left ▸ less) sound rfl
        exact ⟨a :: acts, List.forall_mem_cons.2 ⟨unprompted, others⟩, settled⟩

end Sound

end TransportStack.Tunnel
