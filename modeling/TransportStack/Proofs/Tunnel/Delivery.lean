import TransportStack.Proofs.Tunnel.Conveying

/-!
Every stream that is dialed gets to the other side, and no other does.
-/

namespace TransportStack.Tunnel

/-- What makes up one turn of `N` stands together. -/
theorem filter_eq_take_drop {α : Type} {N : Nat} (positive : 0 < N) {xs : List α} {p : α → Bool}
    {j : Nat} (h : ∀ i x, xs[i]? = some x → (p x = true ↔ j = i / N)) :
    xs.filter p = (xs.drop (j * N)).take N := by
  have before : (xs.take (j * N)).filter p = [] := by
    refine List.filter_eq_nil_iff.2 fun x hx own => ?_
    obtain ⟨i, hi⟩ := List.mem_iff_getElem?.1 hx
    rw [List.getElem?_take] at hi
    split at hi
    · rename_i early
      rw [(h i x hi).1 own] at early
      exact Nat.not_lt_of_le (Nat.div_mul_le_self i N) early
    · cases hi
  have own : ((xs.drop (j * N)).take N).filter p = (xs.drop (j * N)).take N := by
    refine List.filter_eq_self.2 fun x hx => ?_
    obtain ⟨i, hi⟩ := List.mem_iff_getElem?.1 hx
    rw [List.getElem?_take, List.getElem?_drop] at hi
    split at hi
    · rename_i early
      rw [h _ x hi, Nat.add_comm, Nat.add_mul_div_right i j positive, Nat.div_eq_of_lt early,
        Nat.zero_add]
    · cases hi
  have after : ((xs.drop (j * N)).drop N).filter p = [] := by
    refine List.filter_eq_nil_iff.2 fun x hx own => ?_
    obtain ⟨i, hi⟩ := List.mem_iff_getElem?.1 hx
    rw [List.drop_drop, List.getElem?_drop] at hi
    have same := (h _ x hi).1 own
    rw [← Nat.succ_mul, Nat.add_comm, Nat.add_mul_div_right i _ positive] at same
    generalize i / N = turns at same
    omega
  calc
    xs.filter p = (xs.take (j * N) ++ ((xs.drop (j * N)).take N ++ (xs.drop (j * N)).drop N)).filter
        p := by
      rw [List.take_append_drop, List.take_append_drop]
    _ = (xs.drop (j * N)).take N := by
      rw [List.filter_append, List.filter_append, before, own, after, List.nil_append,
        List.append_nil]

namespace Crossing

variable {address : String} {p : Parameters} {N k : Nat} {f : FanIn Socket Stream} {g : Crossing}

theorem InTurn.within {sessions : Nat} {turn? : Option Socket} (h : InTurn N k sessions turn?)
    (positive : 0 < N) {i : Nat} (hi : i < k) : i / N < sessions := by
  have before : i / N * N < k := Nat.lt_of_le_of_lt (Nat.div_mul_le_self i N) hi
  cases turn? with
  | none =>
      have counted : sessions = sessionsAfter N k := h
      rw [counted]
      exact (lt_sessionsAfter_iff positive _ _).2 before
  | some c =>
      rw [h.2]
      exact Nat.lt_succ_of_le (Nat.div_le_div_right (Nat.le_of_lt hi))

namespace Conveys

theorem isOn_iff (h : Conveys address p N k f g) (positive : 0 < N) {i : Nat} (hi : i < k)
    {side : Half} {x : Stream} (he : IsEnd N i side x) (j : Nat) :
    g.tunnel.isOn j x = true ↔ j = i / N := by
  obtain ⟨q, rfl, -, -, signal⟩ := he.piped
  have ancestors : (Stream.piped q).signal.ancestors = (sessionSignal N (i / N)).lineage :=
    congrArg Signal.ancestors signal
  rw [Tunnel.isOn, ancestors, Option.any_eq_true]
  constructor
  · rintro ⟨s, hs, same⟩
    have own : s.signal = sessionSignal N j := (h.sound.session j s hs).signal
    rw [own] at same
    have number := (List.cons.inj (eq_of_beq same)).1
    exact sessionSignal_inj (N := N) (congrArg (fun n => Signal.mk n []) number)
  · rintro rfl
    have hs := List.getElem?_eq_getElem (h.turn.within positive hi)
    refine ⟨_, hs, ?_⟩
    rw [(h.sound.session _ _ hs).signal]
    exact beq_self_eq_true _

theorem filter_isOn (h : Conveys address p N k f g) (positive : 0 < N) {xs : List Stream}
    (known : ∀ x ∈ xs, ∃ i < k, ∃ side, IsEnd N i side x) (j : Nat) :
    xs.filter (g.tunnel.isOn j) = ofSession N j xs := by
  refine List.filter_congr fun x hx => ?_
  obtain ⟨i, hi, side, he⟩ := known x hx
  rw [Bool.eq_iff_iff, h.isOn_iff positive hi he, he.pipe?, Option.map_some, Option.some_beq_some,
    beq_iff_eq, eq_comm]

/-- The streams dialed on a session are those of the calls of one turn. -/
theorem dialed_on (h : Conveys address p N k f g) (positive : 0 < N) (j : Nat) :
    g.tunnel.dialed.filter (g.tunnel.isOn j) = (g.tunnel.dialed.drop (j * N)).take N := by
  refine filter_eq_take_drop positive fun i s hs => ?_
  obtain ⟨hi, he⟩ := h.end_of_dialed hs
  exact h.isOn_iff positive hi he j

/-- Where nothing can move, nothing is on the way. -/
theorem empty_of_stuck (h : Conveys address p N k f g) (stuck : g.IsStuck) :
    f.line = [] ∧ ∀ j, g.tunnel.network.incoming j = [] := by
  obtain ⟨-, still, waits⟩ := stuck
  have looked : g.tunnel.network.acceptOnStreamListener g.tunnel.listener = _ := h.sound.acceptOn_eq
  have queue : f.queue = [] := by
    cases queued : f.queue with
    | nil => rfl
    | cons s rest =>
        rw [looked, FanIn.take?, queued] at waits
        cases waits
  have parked : f.parked = [] := by
    refine Classical.byContradiction fun some_wait => ?_
    have full := h.sound.orderly.full some_wait
    rw [queue] at full
    exact Nat.ne_of_lt h.room full
  refine ⟨by rw [FanIn.line, queue, parked]; rfl, fun j => ?_⟩
  obtain ⟨served, tasks⟩ := h.sound.tasks_wait (h.sound.step?_eq_none still)
  rw [Network.incoming]
  cases hs : g.tunnel.network.sessions[j]? with
  | none => rfl
  | some s =>
      have within : j < f.count := by
        rw [served]
        exact (List.getElem?_eq_some_iff.1 hs).1
      obtain working | closed := h.sound.served j within
      · have free : f.isParked j = false := by
          rw [FanIn.isParked_eq_false_iff, parked]
          exact fun _ hq => absurd hq List.not_mem_nil
        exact (tasks j working free s hs).1
      · exact ((h.sound.session j s hs).closed closed).2

theorem end_of_peer (h : Conveys address p N k f g) {i : Nat} {x : Stream}
    (hx : g.tunnel.dialed[i]?.map Stream.peer = some x) : i < k ∧ IsEnd N i .second x := by
  obtain ⟨s, hs, rfl⟩ := Option.map_eq_some_iff.1 hx
  obtain ⟨hi, he⟩ := h.end_of_dialed hs
  exact ⟨hi, he.peer⟩

theorem nodup_peers (h : Conveys address p N k f g) : (g.tunnel.dialed.map Stream.peer).Nodup := by
  refine List.nodup_iff_getElem?_ne_getElem?.2 fun i j before within same => ?_
  have hx := List.getElem?_eq_getElem (Nat.lt_trans before within)
  rw [List.getElem?_map] at hx
  rw [List.getElem?_map, List.getElem?_map] at same
  have first := (h.end_of_peer hx).2.pipe?
  have second := (h.end_of_peer (same ▸ hx)).2.pipe?
  rw [first] at second
  cases second
  exact Nat.lt_irrefl i before

theorem returned_subperm (h : Conveys address p N k f g) :
    g.returned.Subperm (g.tunnel.dialed.map Stream.peer) := by
  refine subperm_of_ofSession (N := N) (fun x hx => ?_) fun j => (h.inOrder.isPrefix j).sublist
  obtain ⟨i, -, he⟩ := h.returned x hx
  exact ⟨i, .second, he⟩

theorem nodup_returned (h : Conveys address p N k f g) : g.returned.Nodup := by
  obtain ⟨xs, same, fewer⟩ := h.returned_subperm
  exact same.nodup_iff.1 (h.nodup_peers.sublist fewer)

theorem existsUnique_dialed (h : Conveys address p N k f g) {x : Stream} (hx : x ∈ g.returned) :
    ∃! i : Nat, g.tunnel.dialed[i]?.map Stream.peer = some x := by
  obtain ⟨i, hi⟩ := List.mem_iff_getElem?.1 (h.returned_subperm.subset hx)
  rw [List.getElem?_map] at hi
  refine ⟨i, hi, fun j hj => ?_⟩
  have same := (h.end_of_peer hj).2.pipe?
  rw [(h.end_of_peer hi).2.pipe?] at same
  cases same
  rfl

/-- The streams of one session are returned in the order in which they were dialed. -/
theorem returned_prefix (h : Conveys address p N k f g) (positive : 0 < N) (j : Nat) :
    g.returned.filter (g.tunnel.isOn j) <+:
      (g.tunnel.dialed.filter (g.tunnel.isOn j)).map Stream.peer := by
  have dialed : g.tunnel.dialed.filter (g.tunnel.isOn j) = ofSession N j g.tunnel.dialed := by
    refine h.filter_isOn positive (fun x hx => ?_) j
    obtain ⟨i, hi⟩ := List.mem_iff_getElem?.1 hx
    exact ⟨i, (h.end_of_dialed hi).1, _, (h.end_of_dialed hi).2⟩
  have returned : g.returned.filter (g.tunnel.isOn j) = ofSession N j g.returned := by
    refine h.filter_isOn positive (fun x hx => ?_) j
    obtain ⟨i, hi, he⟩ := h.returned x hx
    exact ⟨i, hi, _, he⟩
  rw [dialed, returned, ← ofSession_map_peer]
  exact h.inOrder.isPrefix j

theorem perm_of_stuck (h : Conveys address p N k f g) (stuck : g.IsStuck) :
    g.returned.Perm (g.tunnel.dialed.map Stream.peer) := by
  obtain ⟨line, incoming⟩ := h.empty_of_stuck stuck
  have inOrder := h.inOrder
  rw [line, stuck.1] at inOrder
  refine h.returned_subperm.antisymm (subperm_of_ofSession (N := N) (fun x hx => ?_) fun j => ?_)
  · obtain ⟨i, hi⟩ := List.mem_iff_getElem?.1 hx
    rw [List.getElem?_map] at hi
    exact ⟨i, .second, (h.end_of_peer hi).2⟩
  · rw [inOrder.eq_of_empty incoming j]

theorem dial_yields (h : Conveys address p N k f g) (positive : 0 < N) (free : g.turn? = none) :
    ∃ s, (g.act .dial).tunnel.dialed = g.tunnel.dialed ++ [s] := by
  obtain ⟨n, -, taken, conveys⟩ := h.takeTurn_eq positive free
  obtain ⟨s, n', -, opened, -⟩ := conveys.openStream_eq positive (by rw [taken])
  refine ⟨s, ?_⟩
  rw [h.dial_eq positive free, opened, taken]

end Conveys

/-- Between a dialer and a listener of sessions, with `N` streams to a session. No call of the
dialer fails, and all calls together dial as few sessions as have room for their streams. What the
listener returns are other ends of dialed streams, none of them twice, and those of one session in
the order of the calls. -/
structure Delivers (N : Nat) (g : Crossing) : Prop where
  dials : g.turn? = none → ∃ s, (g.move (.act .dial)).tunnel.dialed = g.tunnel.dialed ++ [s]
  sessions : g.turn? = none →
    g.tunnel.network.sessions.length = (g.tunnel.dialed.length + N - 1) / N
  turns : ∀ i s, g.tunnel.dialed[i]? = some s → ∀ j, g.tunnel.isOn j s = true ↔ j = i / N
  load : ∀ j, (g.tunnel.dialed.filter (g.tunnel.isOn j)).length ≤ N
  peers : ∀ x ∈ g.returned, ∃! i : Nat, g.tunnel.dialed[i]?.map Stream.peer = some x
  once : g.returned.Nodup
  ordered : ∀ j, g.returned.filter (g.tunnel.isOn j) <+:
    (g.tunnel.dialed.filter (g.tunnel.isOn j)).map Stream.peer
  /-- Where nothing can move, all have been returned. -/
  complete : g.IsStuck → g.returned.Perm (g.tunnel.dialed.map Stream.peer)

theorem Conveys.delivers (h : Conveys address p N k f g) (positive : 0 < N) : g.Delivers N where
  dials := h.dial_yields positive
  sessions free := by
    have sessions := h.turn
    rw [free, ← h.sound.calls] at sessions
    exact sessions
  turns _ _ hs j :=
    have ⟨hi, he⟩ := h.end_of_dialed hs
    h.isOn_iff positive hi he j
  load j := by
    rw [h.dialed_on positive]
    exact List.length_take_le _ _
  peers _ hx := h.existsUnique_dialed hx
  once := h.nodup_returned
  ordered := h.returned_prefix positive
  complete := h.perm_of_stuck

end Crossing

/-- Every stream that is dialed crosses, while calls and tasks overtake each other in any way. -/
theorem every_stream_crosses (address : String) (listening dialing : Parameters) :
    let N := dialing.common.positiveCount Rotation.limitKey 1
    ∃ l d n, connect address listening dialing .empty = (.ok (l, d), n) ∧
      ∀ moves : List Crossing.Move,
        ((Crossing.mk (Tunnel.mk n d l [] [] []) none [] []).run moves).Delivers N := by
  intro N
  refine ⟨_, _, _, connect_eq address listening dialing, ?_⟩
  intro moves
  have positive : 0 < N := Nat.le_max_right _ 1
  have start := Crossing.conveys_start address (dialing.seenBy "memmux[0]") N
    (FanIn.capacityOf listening.common)
  rw [Nat.max_eq_left positive] at start
  obtain ⟨k, f, conveys⟩ := start.run positive moves
  exact conveys.delivers positive

/-- Two streams are dialed, each on a session of its own. The second one overtakes the first, which
is in the hand of a worker while the dialer has already gone on. -/
def overtaking : List Crossing.Move :=
  [.takeTurn, .openStream, .act (.task none), .receive 0, .act .dial, .act .release,
    .act (.task none), .act (.task (some 1)), .offer 0, .act (.task (some 0)), .act .accept,
    .act .accept]

def overtaken : Crossing := (Crossing.mk (start "here" .empty 1 1000) none [] []).run overtaking

theorem overtaken_isStuck : overtaken.IsStuck := by
  refine ⟨by rfl, fun worker? => ?_, by rfl⟩
  match worker? with
  | none => rfl
  | some 0 => rfl
  | some 1 => rfl
  | some (worker + 2) => rfl

/-- Both streams have been returned, although the dialer has left the session of the first one. -/
theorem every_stream_crosses_overtaken :
    ∃ l d n, connect "here" .empty .empty .empty = (.ok (l, d), n) ∧
      let g := (Crossing.mk (Tunnel.mk n d l [] [] []) none [] []).run overtaking
      g.IsStuck ∧ g.tunnel.dialed.length = 2 ∧ g.tunnel.network.sessions.length = 2 ∧
        g.returned.Perm (g.tunnel.dialed.map Stream.peer) := by
  obtain ⟨l, d, n, connected, all⟩ := every_stream_crosses "here" .empty .empty
  refine ⟨l, d, n, connected, ?_⟩
  cases (connect_eq "here" .empty .empty).symm.trans connected
  change overtaken.IsStuck ∧ overtaken.tunnel.dialed.length = 2 ∧
    overtaken.tunnel.network.sessions.length = 2 ∧
    overtaken.returned.Perm (overtaken.tunnel.dialed.map Stream.peer)
  exact ⟨overtaken_isStuck, rfl, rfl, (all overtaking).complete overtaken_isStuck⟩

end TransportStack.Tunnel
