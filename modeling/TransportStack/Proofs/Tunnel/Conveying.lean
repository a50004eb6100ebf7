import TransportStack.Proofs.Tunnel.Ordering

/-!
What holds while streams cross. The tunnel is sound when the streams in the hands of workers are
held too, and all moves keep the streams in order. A call of the dialer and a step of a worker are
their two parts, one after the other.
-/

namespace TransportStack

theorem Network.offer_eq {n : Network} {f : FanIn Socket Stream} {l : MuxListener} {s : Signal}
    (hd : n.demuxers = [⟨f, l, s⟩]) {worker : Nat} {x : Stream} :
    n.offer 0 worker x = { n with demuxers := [⟨f.offer worker x, l, s⟩] } := by
  rw [Network.offer, hd]
  rfl

namespace Tunnel

open Scenario (ByteOp)

variable {address : String} {p : Parameters} {N k : Nat} {f : FanIn Socket Stream}

namespace Sound

variable {t : Tunnel}

/-- A stream is kept on top of what is held. -/
theorem keep (h : Sound address p N k f t) {x : Stream} (known : ∃ i < k, IsEnd N i .second x) :
    Sound address p N k f { t with held := t.held ++ [x] } := by
  refine { h with
    session := fun j s hs => (h.session j s hs).mono (Nat.le_refl k) (Nat.le_refl _) Iff.rfl
    held := ?held
    places := ?places }
  case held =>
    intro y hy
    obtain hy | hy := List.mem_append.1 hy
    · exact h.held y hy
    · obtain ⟨i, hi, he⟩ := known
      rw [List.mem_singleton.1 hy]
      exact ⟨i, hi, .second, he⟩
  case places =>
    intro i hi alive
    obtain ⟨⟨y, hy, first⟩, second⟩ := h.places i hi alive
    refine ⟨⟨y, List.mem_append_left _ hy, first⟩, ?_⟩
    exact second.mono (fun _ hx => List.mem_append_left _ hx) (fun _ hx => hx)
      fun _ s hs => ⟨s, hs, fun _ hx => hx⟩

/-- What is in the line need not be held. -/
theorem withHeld (h : Sound address p N k f t) {held : List Stream} (fewer : held ⊆ t.held)
    (rest : ∀ x ∈ t.held, x ∈ held ∨ x ∈ f.line) :
    Sound address p N k f { t with held := held } := by
  refine { h with
    session := fun j s hs => (h.session j s hs).mono (Nat.le_refl k) (Nat.le_refl _) Iff.rfl
    held := fun x hx => h.held x (fewer hx)
    places := ?places }
  case places =>
    intro i hi alive
    obtain ⟨⟨x, hx, first⟩, y, second, hy⟩ := h.places i hi alive
    refine ⟨⟨x, ?_, first⟩, y, second, ?_⟩
    · refine (rest x hx).resolve_right fun inLine => ?_
      obtain ⟨i', -, he⟩ := h.line x inLine
      exact first.not_second he
    · obtain hy | hy := hy
      · obtain hy | hy := rest y hy
        · exact .inl hy
        · exact .inr (.inl hy)
      · exact .inr hy

theorem withHeld_of_perm (h : Sound address p N k f t) {held : List Stream}
    (same : held.Perm t.held) : Sound address p N k f { t with held := held } :=
  h.withHeld same.subset fun _ hx => .inl (same.symm.subset hx)

theorem receive?_eq (h : Sound address p N k f t) {j : Nat} (working : f.AtWork j)
    {s : Session Stream} (hs : t.network.sessions[j]? = some s) :
    t.network.receive? 0 j =
      if f.isParked j then none
      else match s.halves.second.incoming with
        | x :: rest => some (x, { t.network with
            sessions := t.network.sessions.set j
              (s.modify .second fun a => { a with incoming := rest }) })
        | [] => none := by
  let supply := Network.supply (Network.acceptOnMuxListener (.memory 0)) shutdown
  have unshut : supply.isShut t.network = false := h.unshut
  have looked : supply.acceptStream (.session j .second) t.network = _ :=
    h.acceptStream_eq working hs
  simp only [Network.receive?, h.demuxer, Option.bind_eq_bind, Option.bind_some,
    h.connection?_eq working]
  rw [unshut, looked, Bool.false_or]
  cases s.halves.second.incoming with
  | cons x rest => rfl
  | nil => cases s.halves.first.released <;> rfl

theorem receive?_cases (h : Sound address p N k f t) {j : Nat} {x : Stream} {n : Network}
    (received : t.network.receive? 0 j = some (x, n)) :
    f.AtWork j ∧ f.isParked j = false ∧ ∃ s rest, t.network.sessions[j]? = some s ∧
      s.halves.second.incoming = x :: rest ∧ n = { t.network with
        sessions := t.network.sessions.set j
          (s.modify .second fun a => { a with incoming := rest }) } := by
  have looked := received
  simp only [Network.receive?, h.demuxer, Option.bind_eq_bind, Option.bind_some] at looked
  obtain ⟨c, found, -⟩ := Option.bind_eq_some_iff.1 looked
  have working := FanIn.atWork_of_connection? found
  obtain ⟨s, hs⟩ := h.session_of_atWork working
  rw [h.receive?_eq working hs] at received
  cases free : f.isParked j with
  | true => simp only [free, if_true, reduceCtorEq] at received
  | false =>
      simp only [free, Bool.false_eq_true, if_false] at received
      cases waiting : s.halves.second.incoming with
      | nil => simp only [waiting, reduceCtorEq] at received
      | cons y rest =>
          rw [waiting] at received
          cases received
          exact ⟨working, rfl, s, rest, hs, waiting, rfl⟩

/-- A stream goes from its session into the hand of a worker, where it is held. -/
theorem pickUp (h : Sound address p N k f t) {j : Nat} (working : f.AtWork j) {s : Session Stream}
    (hs : t.network.sessions[j]? = some s) {x : Stream} {rest : List Stream}
    (waiting : s.halves.second.incoming = x :: rest) :
    Sound address p N k f { t with
      network := { t.network with
        sessions := t.network.sessions.set j
          (s.modify .second fun a => { a with incoming := rest }) }
      held := t.held ++ [x] } := by
  have known : ∃ i < k, IsEnd N i .second x :=
    (h.session j s hs).incoming x (by rw [waiting]; exact List.mem_cons_self)
  exact (h.keep known).shift working hs waiting
    (.inl (List.mem_append_right _ (List.mem_singleton_self x)))

end Sound

namespace Crossing

variable {g : Crossing}

/-- How many sessions there are after `k` calls, and on which of them a call that is under way opens
its stream. -/
def InTurn (N k sessions : Nat) : Option Socket → Prop
  | none => sessions = sessionsAfter N k
  | some c => c = .session (k / N) .first ∧ sessions = k / N + 1

/-- What holds after `k` calls of the dialer, with the queue and the tasks of the listener. -/
structure Conveys (address : String) (p : Parameters) (N k : Nat) (f : FanIn Socket Stream)
    (g : Crossing) : Prop where
  sound : Sound address p N k f g.whole
  turn : InTurn N k g.tunnel.network.sessions.length g.turn?
  room : 0 < f.capacity
  hands : ∀ q ∈ g.inHand, f.AtWork q.1 ∧ f.isParked q.1 = false
  once : (g.inHand.map Prod.fst).Nodup
  returned : ∀ x ∈ g.returned, ∃ i < k, IsEnd N i .second x
  inOrder : InOrder N g.tunnel.dialed g.returned f.line g.inHand g.tunnel.network.incoming

/-- A stream that the program gets stands before those in the hands of workers. -/
private theorem held_concat_perm (held inHand : List Stream) (x : Stream) :
    ((held ++ [x]) ++ inHand).Perm (held ++ inHand ++ [x]) := by
  rw [List.append_assoc, List.append_assoc]
  exact (List.perm_append_comm).append_left held

namespace Conveys

/-- What the program and the release of what nobody holds change has nothing to do with the order of
the streams. -/
theorem elsewhere (h : Conveys address p N k f g) {t : Tunnel}
    (sound : Sound address p N k f { t with held := t.held ++ g.inHand.map Prod.snd })
    (sessions : t.network.sessions.length = g.tunnel.network.sessions.length)
    (incoming : t.network.incoming = g.tunnel.network.incoming)
    (dialed : t.dialed = g.tunnel.dialed) : Conveys address p N k f { g with tunnel := t } := by
  refine { h with
    sound := sound
    turn := ?turn
    inOrder := ?inOrder }
  case turn =>
    rw [sessions]
    exact h.turn
  case inOrder =>
    rw [incoming, dialed]
    exact h.inOrder

theorem dialer (h : Conveys address p N k f g) :
    g.tunnel.dialer = .rotating 0 (.bound .addrSolution .memoryMux address p) := h.sound.dialer

theorem end_of_dialed (h : Conveys address p N k f g) {i : Nat} {s : Stream}
    (hs : g.tunnel.dialed[i]? = some s) : i < k ∧ IsEnd N i .first s := by
  have within : i < g.tunnel.dialed.length := (List.getElem?_eq_some_iff.1 hs).1
  exact ⟨Nat.lt_of_lt_of_eq within h.sound.calls, h.sound.dialed i s hs⟩

theorem end_of_mem (h : Conveys address p N k f g) {j : Nat} {x : Stream}
    (hx : x ∈ ofSession N j (g.tunnel.dialed.map Stream.peer)) :
    ∃ i < k, IsEnd N i .second x ∧ i / N = j := by
  obtain ⟨s, hs, rfl⟩ := List.mem_map.1 (List.mem_filter.1 hx).1
  obtain ⟨i, hi⟩ := List.mem_iff_getElem?.1 hs
  obtain ⟨within, he⟩ := h.end_of_dialed hi
  exact ⟨i, within, he.peer, ((mem_ofSession he.peer).1 hx).2⟩

/-- A call that takes its turn has the last session. -/
theorem takeTurn_eq (h : Conveys address p N k f g) (positive : 0 < N) (free : g.turn? = none) :
    ∃ n, Network.takeTurn 0 (Network.dial (.bound .addrSolution .memoryMux address p))
        g.tunnel.network = (.ok (.session (k / N) .first), n) ∧
      g.takeTurn = { g with
        tunnel := { g.tunnel with network := n }
        turn? := some (.session (k / N) .first) } ∧
      Conveys address p N k f g.takeTurn := by
  have sessions := h.turn
  rw [free] at sessions
  obtain ⟨n, taken, sound, sessions', -, incoming⟩ := h.sound.takeTurn positive sessions
  have taken' : g.takeTurn = { g with
      tunnel := { g.tunnel with network := n }
      turn? := some (.session (k / N) .first) } := by
    have taken : Network.takeTurn 0 _ g.tunnel.network = _ := taken
    simp only [Crossing.takeTurn, free, h.dialer, taken]
  refine ⟨n, taken, taken', ?_⟩
  rw [taken']
  refine { h with
    sound := sound
    turn := ⟨rfl, sessions'⟩
    inOrder := ?inOrder }
  case inOrder =>
    have incoming : n.incoming = g.tunnel.network.incoming := funext incoming
    rw [incoming]
    exact h.inOrder

/-- A call that is under way opens a stream on the last session. -/
theorem openStream_eq (h : Conveys address p N k f g) (positive : 0 < N) {c : Socket}
    (underWay : g.turn? = some c) :
    ∃ s n, Network.openInTurn 0 (throw .closed) c g.tunnel.network = (.ok s, n) ∧
      g.openStream = { g with
        tunnel := { g.tunnel with
          network := n
          held := g.tunnel.held ++ [s]
          dialed := g.tunnel.dialed ++ [s] }
        turn? := none } ∧
      Conveys address p N (k + 1) f g.openStream := by
  have turn := h.turn
  rw [underWay] at turn
  obtain ⟨rfl, sessions⟩ := turn
  obtain ⟨s, n, opened, sound, sessions', -, incoming⟩ :=
    h.sound.openInTurn sessions (throw .closed)
  let x := g.tunnel.network.nextStream s .first .first
  have opened' : g.openStream = { g with
      tunnel := { g.tunnel with
        network := n
        held := g.tunnel.held ++ [x]
        dialed := g.tunnel.dialed ++ [x] }
      turn? := none } := by
    have opened : Network.openInTurn 0 _ _ g.tunnel.network = _ := opened
    simp only [Crossing.openStream, underWay, h.dialer, opened]
    rfl
  have own : IsEnd N k .second x.peer := by
    refine IsEnd.peer (sound.dialed k x ?_)
    change (g.tunnel.dialed ++ [x])[k]? = some x
    rw [← h.sound.calls]
    exact List.getElem?_concat_length
  refine ⟨x, n, opened, opened', ?_⟩
  rw [opened']
  refine { h with
    sound := sound.withHeld_of_perm ?sound
    turn := sessions'.trans (sessionsAfter_succ positive k).symm
    returned := ?returned
    inOrder := h.inOrder.dial own incoming }
  case sound => exact held_concat_perm _ _ x
  case returned =>
    intro y hy
    obtain ⟨i, hi, he⟩ := h.returned y hy
    exact ⟨i, Nat.lt_succ_of_lt hi, he⟩

/-- A call as a whole is its two parts, one after the other. -/
theorem dial_eq (h : Conveys address p N k f g) (positive : 0 < N) (free : g.turn? = none) :
    g.act .dial = g.takeTurn.openStream := by
  obtain ⟨n, taken, taken', conveys⟩ := h.takeTurn_eq positive free
  obtain ⟨s, n', opened, opened', -⟩ := conveys.openStream_eq positive (by rw [taken'])
  rw [taken'] at opened opened' ⊢
  have dialed : Network.dial g.tunnel.dialer g.tunnel.network = (.ok (.stream s), n') := by
    rw [h.dialer]
    exact Network.dial_eq taken opened
  rw [opened', Crossing.act, free, Sound.dial_eq dialed]
  rfl

theorem accept (h : Conveys address p N k f g) :
    ∃ f', Conveys address p N k f' (g.act .accept) := by
  have looked : g.tunnel.network.acceptOnStreamListener g.tunnel.listener = _ := h.sound.acceptOn_eq
  cases taken : f.take? with
  | none =>
      rw [taken] at looked
      have same : g.act .accept = g := by
        simp only [Crossing.act, Tunnel.accept, Tunnel.accepted?, looked, Option.toList_none,
          List.append_nil]
        rfl
      rw [same]
      exact ⟨f, h⟩
  | some r =>
      obtain ⟨s, f'⟩ := r
      rw [taken] at looked
      have same : g.act .accept = { g with
          tunnel := { g.tunnel with
            network := { g.tunnel.network with demuxers := [⟨f', .memory 0, shutdown⟩] }
            held := g.tunnel.held ++ [s] }
          returned := g.returned ++ [s] } := by
        simp only [Crossing.act, Tunnel.accept, Tunnel.accepted?, looked]
        rfl
      obtain ⟨workers, -, capacity, -, parked⟩ := FanIn.workers_of_take? taken
      have line := FanIn.line_of_take? taken
      have inOrder := h.inOrder
      rw [line] at inOrder
      rw [same]
      refine ⟨f', { h with
        sound := (h.sound.take taken).withHeld_of_perm (held_concat_perm _ _ s)
        room := Nat.lt_of_lt_of_eq h.room capacity.symm
        hands := ?hands
        returned := ?returned
        inOrder := inOrder.take }⟩
      case hands =>
        intro q hq
        obtain ⟨working, free⟩ := h.hands q hq
        refine ⟨(FanIn.atWork_congr workers q.1).2 working, ?_⟩
        exact FanIn.isParked_of_subset parked.subset free
      case returned =>
        intro y hy
        obtain hy | hy := List.mem_append.1 hy
        · exact h.returned y hy
        · rw [List.mem_singleton.1 hy]
          exact h.sound.line s (by rw [line]; exact List.mem_cons_self)

/-- A worker whose hand is empty takes a stream into it. -/
theorem pickUp (h : Conveys address p N k f g) {j : Nat} (working : f.AtWork j)
    (free : f.isParked j = false) (empty : handOf g.inHand j = []) {s : Session Stream}
    (hs : g.tunnel.network.sessions[j]? = some s) {x : Stream} {rest : List Stream}
    (waiting : s.halves.second.incoming = x :: rest) :
    Conveys address p N k f { g with
      tunnel := { g.tunnel with network := { g.tunnel.network with
        sessions := g.tunnel.network.sessions.set j
          (s.modify .second fun a => { a with incoming := rest }) } }
      inHand := g.inHand ++ [(j, x)] } := by
  refine { h with
    sound := ?sound
    turn := ?turn
    hands := ?hands
    once := ?once
    inOrder := ?inOrder }
  case sound =>
    have picked := h.sound.pickUp working hs waiting
    simp only [whole, List.map_append, List.map_singleton, ← List.append_assoc] at picked ⊢
    exact picked
  case turn =>
    rw [List.length_set]
    exact h.turn
  case hands =>
    intro q hq
    obtain hq | hq := List.mem_append.1 hq
    · exact h.hands q hq
    · rw [List.mem_singleton.1 hq]
      exact ⟨working, free⟩
  case once =>
    rw [List.map_append, List.nodup_append]
    refine ⟨h.once, List.nodup_singleton _, ?_⟩
    intro i hi i' hi'
    obtain ⟨q, hq, rfl⟩ := List.mem_map.1 hi
    rw [List.mem_singleton.1 hi']
    exact ne_of_handOf_eq_nil empty hq
  case inOrder =>
    have waiting' := (Network.incoming_eq hs).trans waiting
    exact h.inOrder.receive empty waiting' (Network.incoming_set hs)

theorem receive (h : Conveys address p N k f g) (worker : Nat) :
    Conveys address p N k f (g.receive worker) := by
  rw [Crossing.receive]
  split
  · rename_i x n empty received
    obtain ⟨working, free, s, rest, hs, waiting, rfl⟩ := h.sound.receive?_cases received
    exact h.pickUp working free empty hs waiting
  · exact h

theorem offer (h : Conveys address p N k f g) (worker : Nat) :
    ∃ f', Conveys address p N k f' (g.offer worker) := by
  rw [Crossing.offer]
  cases hand : handOf g.inHand worker with
  | nil => exact ⟨f, h⟩
  | cons x xs =>
      obtain rfl := handOf_eq h.once hand
      have hx : x ∈ handOf g.inHand worker := by
        rw [hand]
        exact List.mem_singleton_self x
      obtain ⟨working, free⟩ := h.hands _ (mem_handOf.1 hx)
      obtain ⟨i, hi, he, own⟩ := h.end_of_mem (h.inOrder.mem_of_hand hx)
      obtain ⟨workers, -, -⟩ := f.workers_of_offer worker x
      have line := h.sound.orderly.line_offer worker x
      have offered : g.tunnel.network.offer 0 worker x = _ := Network.offer_eq h.sound.demuxers
      simp only [offered]
      refine ⟨f.offer worker x, { h with
        sound := ?sound
        room := ?room
        hands := ?hands
        once := h.once.sublist (List.filter_sublist.map _)
        inOrder := ?inOrder }⟩
      case sound =>
        refine (h.sound.offer working free ⟨i, hi, he⟩).withHeld ?_ ?_
        · intro y hy
          obtain hy | hy := List.mem_append.1 hy
          · exact List.mem_append_left _ hy
          · exact List.mem_append_right _ ((List.filter_sublist.map _).subset hy)
        · intro y hy
          obtain hy | hy := List.mem_append.1 hy
          · exact .inl (List.mem_append_left _ hy)
          · obtain others | own := mem_without_or_mem_handOf hy worker
            · exact .inl (List.mem_append_right _ others)
            · rw [hand] at own
              rw [line, List.mem_singleton.1 own]
              exact .inr (List.mem_append_right _ (List.mem_singleton_self x))
      case room =>
        rw [f.capacity_offer]
        exact h.room
      case hands =>
        intro q hq
        obtain ⟨hq, other⟩ := List.mem_filter.1 hq
        obtain ⟨working, free⟩ := h.hands q hq
        refine ⟨(FanIn.atWork_congr workers q.1).2 working, ?_⟩
        exact FanIn.isParked_offer free (bne_iff_ne.1 other) x
      case inOrder =>
        rw [line]
        exact h.inOrder.offer he own hand

/-- A step of a worker that accepts a stream is its two parts, one after the other. -/
theorem task_eq (h : Conveys address p N k f g) {j : Nat} (working : f.AtWork j)
    (free : f.isParked j = false) (empty : handOf g.inHand j = []) {s : Session Stream}
    (hs : g.tunnel.network.sessions[j]? = some s) {x : Stream} {rest : List Stream}
    (waiting : s.halves.second.incoming = x :: rest) :
    g.act (.task (some j)) = (g.receive j).offer j := by
  have step : g.tunnel.network.taskStep? 0 (some j) = _ := h.sound.taskStep?_worker_eq working hs
  have received : g.tunnel.network.receive? 0 j = _ := h.sound.receive?_eq working hs
  rw [free, waiting] at step received
  have hand : handOf (g.inHand ++ [(j, x)]) j = [x] := by
    rw [handOf_concat, empty, if_pos rfl, List.nil_append]
  have others := filter_concat_of_handOf_eq_nil empty x
  have demuxers := (h.pickUp working free empty hs waiting).sound.demuxers
  simp only [Crossing.receive, empty, received, Bool.false_eq_true, if_false, Crossing.offer, hand,
    others]
  simp only [Crossing.act, Tunnel.act, Option.all_some, empty, List.isEmpty_nil, if_true, step]
  exact congrArg (fun n => { g with tunnel := { g.tunnel with network := n } })
    (Network.offer_eq demuxers).symm

theorem task (h : Conveys address p N k f g) (worker? : Option Nat) :
    ∃ f', Conveys address p N k f' (g.act (.task worker?)) := by
  by_cases empty : worker?.all (fun worker => (handOf g.inHand worker).isEmpty) = true
  · cases step : g.tunnel.network.taskStep? 0 worker? with
    | none =>
        simp only [Crossing.act, if_pos empty, Tunnel.act, step]
        exact ⟨f, h⟩
    | some n =>
        obtain ⟨f', stepped⟩ := h.sound.taskStep_cases step
        cases stepped with
        | assign waiting =>
            simp only [Crossing.act, if_pos empty, Tunnel.act, step]
            refine ⟨_, { h with
              sound := h.sound.assign waiting
              turn := h.turn
              hands := ?_
              inOrder := h.inOrder }⟩
            intro q hq
            obtain ⟨working, free⟩ := h.hands q hq
            exact ⟨(f.atWork_assign_iff _ _).2 (.inl working), free⟩
        | receive working free hs waiting =>
            rw [h.task_eq working free (List.isEmpty_iff.1 empty) hs waiting]
            exact (h.receive _).offer _
        | resign working free hs waiting abandoned =>
            have free_hand := List.isEmpty_iff.1 empty
            have line : (f.leave _).line = f.line := FanIn.line_leave_of_free free
            have inOrder := h.inOrder
            rw [← line] at inOrder
            simp only [Crossing.act, if_pos empty, Tunnel.act, step]
            refine ⟨_, { h with
              sound := h.sound.resign working free hs waiting abandoned
              turn := h.turn
              hands := ?_
              inOrder := inOrder }⟩
            intro q hq
            obtain ⟨working, free⟩ := h.hands q hq
            refine ⟨(f.atWork_leave_iff _ _).2 ⟨working, ne_of_handOf_eq_nil free_hand hq⟩, ?_⟩
            exact FanIn.isParked_of_subset List.filter_sublist.subset free
  · simp only [Crossing.act, if_neg empty]
    exact ⟨f, h⟩

theorem release (h : Conveys address p N k f g) : Conveys address p N k f (g.act .release) := by
  simp only [Crossing.act, Tunnel.act]
  cases released : g.whole.network.release? g.whole.roots with
  | none => exact h
  | some n =>
      obtain ⟨sound, sessions, -, -⟩ := h.sound.release released
      obtain ⟨loose, -, -, rfl⟩ := Network.release?_eq_some released
      exact h.elsewhere sound sessions (Network.incoming_releaseAll _ loose) rfl

theorem perform (h : Conveys address p N k f g) {s : Stream} (held : s ∈ g.tunnel.held)
    (op : ByteOp) : Conveys address p N k f { g with tunnel := g.tunnel.perform s op } := by
  obtain ⟨sound, -, sessions⟩ := h.sound.perform (List.mem_append_left _ held) op
  have apart : g.whole.perform s op = { g.tunnel.perform s op with held := g.whole.held } := by
    simp only [Tunnel.perform, whole]
    split <;> rfl
  obtain ⟨ended, performed, -⟩ := g.tunnel.perform_eq s op
  rw [apart, performed] at sound sessions
  rw [performed]
  exact h.elsewhere sound (congrArg List.length sessions) (Network.incoming_congr sessions) rfl

theorem close (h : Conveys address p N k f g) {s : Stream} (held : s ∈ g.tunnel.held) :
    Conveys address p N k f { g with tunnel := g.tunnel.close s } := by
  obtain ⟨sound, -, sessions⟩ := h.sound.close (List.mem_append_left _ held)
  exact h.elsewhere sound (congrArg List.length sessions) (Network.incoming_congr sessions) rfl

theorem drop (h : Conveys address p N k f g) {s : Stream} (held : s ∈ g.tunnel.held) :
    Conveys address p N k f { g with tunnel := g.tunnel.drop s } := by
  obtain ⟨sound, -, -⟩ := h.sound.drop (List.mem_append_left _ held)
  have erased : g.whole.held.erase s = g.tunnel.held.erase s ++ g.inHand.map Prod.snd :=
    List.erase_append_left _ held
  simp only [Tunnel.drop, erased] at sound
  exact h.elsewhere sound rfl rfl rfl

/-- What an act preserves. -/
theorem act (h : Conveys address p N k f g) (positive : 0 < N) (a : Act) :
    ∃ k' f', Conveys address p N k' f' (g.act a) := by
  cases a with
  | dial =>
      cases free : g.turn? with
      | none =>
          obtain ⟨n, -, taken, conveys⟩ := h.takeTurn_eq positive free
          obtain ⟨s, n', -, -, conveys⟩ := conveys.openStream_eq positive (by rw [taken])
          rw [h.dial_eq positive free]
          exact ⟨_, _, conveys⟩
      | some c =>
          simp only [Crossing.act, free]
          exact ⟨k, f, h⟩
  | accept => exact ⟨k, h.accept⟩
  | task worker? => exact ⟨k, h.task worker?⟩
  | release => exact ⟨k, f, h.release⟩
  | perform s op =>
      by_cases held : s ∈ g.tunnel.held
      · simp only [Crossing.act, Tunnel.act, if_pos held]
        exact ⟨k, f, h.perform held op⟩
      · simp only [Crossing.act, Tunnel.act, if_neg held]
        exact ⟨k, f, h⟩
  | close s =>
      by_cases held : s ∈ g.tunnel.held
      · simp only [Crossing.act, Tunnel.act, if_pos held]
        exact ⟨k, f, h.close held⟩
      · simp only [Crossing.act, Tunnel.act, if_neg held]
        exact ⟨k, f, h⟩
  | drop s =>
      by_cases held : s ∈ g.tunnel.held
      · simp only [Crossing.act, Tunnel.act, if_pos held]
        exact ⟨k, f, h.drop held⟩
      · simp only [Crossing.act, Tunnel.act, if_neg held]
        exact ⟨k, f, h⟩

/-- What a move preserves. -/
theorem move (h : Conveys address p N k f g) (positive : 0 < N) (m : Move) :
    ∃ k' f', Conveys address p N k' f' (g.move m) := by
  cases m with
  | takeTurn =>
      cases free : g.turn? with
      | none =>
          obtain ⟨n, -, -, conveys⟩ := h.takeTurn_eq positive free
          exact ⟨k, f, conveys⟩
      | some c =>
          simp only [Crossing.move, Crossing.takeTurn, free]
          exact ⟨k, f, h⟩
  | openStream =>
      cases underWay : g.turn? with
      | none =>
          simp only [Crossing.move, Crossing.openStream, underWay]
          exact ⟨k, f, h⟩
      | some c =>
          obtain ⟨s, n, -, -, conveys⟩ := h.openStream_eq positive underWay
          exact ⟨k + 1, f, conveys⟩
  | receive worker => exact ⟨k, f, h.receive worker⟩
  | offer worker => exact ⟨k, h.offer worker⟩
  | act a => exact h.act positive a

/-- What all moves preserve. -/
theorem run (h : Conveys address p N k f g) (positive : 0 < N) (moves : List Move) :
    ∃ k' f', Conveys address p N k' f' (g.run moves) := by
  induction moves generalizing k f g with
  | nil => exact ⟨k, f, h⟩
  | cons m moves ih =>
      obtain ⟨k', f', moved⟩ := h.move positive m
      exact ih moved

end Conveys

theorem conveys_start (address : String) (p : Parameters) (limit capacity : Nat) :
    Conveys address p (max limit 1) 0 (.start capacity)
      ⟨start address p limit capacity, none, [], []⟩ where
  sound := sound_start address p limit capacity
  turn := (sessionsAfter_zero (Nat.lt_of_lt_of_le Nat.zero_lt_one (Nat.le_max_right limit 1))).symm
  room := Nat.lt_of_lt_of_le Nat.zero_lt_one (Nat.le_max_right capacity 1)
  hands _ h := nomatch h
  once := List.nodup_nil
  returned _ h := nomatch h
  inOrder _ := rfl

end Crossing

end Tunnel

end TransportStack
