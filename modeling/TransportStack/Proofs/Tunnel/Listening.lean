import TransportStack.Proofs.Tunnel.Dialing
import TransportStack.Proofs.Tunnel.Remaining

/-!
The side of the listener. The task that accepts connections gives each session to the worker of its
own number. A worker closes its session when it finds it abandoned and without streams to accept,
and in no other case.
-/

namespace TransportStack.Tunnel

variable {address : String} {p : Parameters} {N k : Nat} {f : FanIn Socket Stream} {t : Tunnel}

/-- A step of a task of the listener: a session gets its worker, or a worker accepts a stream and
offers it, or it closes its session. -/
inductive TaskStep (address : String) (N : Nat) (f : FanIn Socket Stream) (t : Tunnel) :
    Option Nat → FanIn Socket Stream → Network → Prop
  | assign (waiting : f.count < t.network.sessions.length) :
      TaskStep address N f t none (f.assign (.session f.count .second)) { t.network with
        demuxers := [⟨f.assign (.session f.count .second), .memory 0, shutdown⟩]
        sockets := listening address (unassigned (f.count + 1) t.network.sessions.length) }
  | receive {j : Nat} (working : f.AtWork j) (free : f.isParked j = false) {s : Session Stream}
      (hs : t.network.sessions[j]? = some s) {x : Stream} {rest : List Stream}
      (waiting : s.halves.second.incoming = x :: rest) :
      TaskStep address N f t (some j) (f.offer j x) { t.network with
        demuxers := [⟨f.offer j x, .memory 0, shutdown⟩]
        sessions := t.network.sessions.set j
          (s.modify .second fun a => { a with incoming := rest }) }
  | resign {j : Nat} (working : f.AtWork j) (free : f.isParked j = false) {s : Session Stream}
      (hs : t.network.sessions[j]? = some s) (waiting : s.halves.second.incoming = [])
      (abandoned : s.halves.first.released = true) :
      TaskStep address N f t (some j) (f.leave j) { t.network with
        demuxers := [⟨f.leave j, .memory 0, shutdown⟩]
        signals := t.network.signals.fire (sessionSignal N j) }

namespace Sound

theorem take (h : Sound address p N k f t) {s : Stream} {f' : FanIn Socket Stream}
    (taken : f.take? = some (s, f')) :
    Sound address p N k f' { t with
      network := { t.network with demuxers := [⟨f', .memory 0, shutdown⟩] }
      held := t.held ++ [s] } := by
  obtain ⟨workers, count, -, accepting, -⟩ := FanIn.workers_of_take? taken
  have line := FanIn.line_of_take? taken
  refine { h with
    demuxers := rfl
    sockets := ?sockets
    orderly := h.orderly.take? taken
    accepting := accepting.trans h.accepting
    count := Nat.le_trans (Nat.le_of_eq count) h.count
    workers := ?workers
    served := ?served
    resigned := ?resigned
    session := fun j s hs => (h.session j s hs).mono (Nat.le_refl k) (Nat.le_refl _) Iff.rfl
    held := ?held
    line := ?line
    places := ?places }
  case sockets =>
    rw [count]
    exact h.sockets
  case workers =>
    rw [workers]
    exact h.workers
  case served =>
    intro j hj
    rw [count] at hj
    exact (h.served j hj).imp_left (FanIn.atWork_congr workers j).2
  case resigned =>
    intro j closed
    rw [count, FanIn.atWork_congr workers]
    exact h.resigned j closed
  case held =>
    intro x hx
    obtain hx | hx := List.mem_append.1 hx
    · exact h.held x hx
    · rw [List.mem_singleton.1 hx]
      obtain ⟨i, hi, he⟩ := h.line s (by rw [line]; exact List.mem_cons_self)
      exact ⟨i, hi, .second, he⟩
  case line =>
    intro x hx
    exact h.line x (by rw [line]; exact List.mem_cons_of_mem _ hx)
  case places =>
    intro i hi alive
    obtain ⟨⟨x, hx, first⟩, y, second, hy⟩ := h.places i hi alive
    refine ⟨⟨x, List.mem_append_left _ hx, first⟩, y, second, ?_⟩
    obtain hy | hy | hy := hy
    · exact .inl (List.mem_append_left _ hy)
    · rw [line] at hy
      obtain rfl | hy := List.mem_cons.1 hy
      · exact .inl (List.mem_append_right _ (List.mem_singleton_self y))
      · exact .inr (.inl hy)
    · exact .inr (.inr hy)

theorem network_eq (h : Sound address p N k f t) :
    { t.network with demuxers := [⟨f, .memory 0, shutdown⟩] } = t.network := by
  rw [← h.demuxers]

theorem acceptOn_eq (h : Sound address p N k f t) :
    t.network.acceptOnStreamListener t.listener =
      match f.take? with
      | some (s, f') => (.ready s, { t.network with demuxers := [⟨f', .memory 0, shutdown⟩] })
      | none => (.pending, t.network) := by
  let supply := Network.supply (fun n => (.pending, n)) shutdown
  have unshut : supply.isShut t.network = false := h.unshut
  have looked : t.network.acceptOnStreamListener t.listener =
      ((f.accept supply t.network).1, { t.network with
        demuxers := [⟨(f.accept supply t.network).2, .memory 0, shutdown⟩] }) := by
    simp only [Network.acceptOnStreamListener, h.listener, h.demuxers, List.getElem?_cons_zero]
    rfl
  rw [looked, FanIn.accept, unshut]
  cases taken : f.take? with
  | none => simp only [Bool.false_eq_true, if_false, h.network_eq]
  | some r => rfl

theorem accept (h : Sound address p N k f t) :
    ∃ f', Sound address p N k f' t.accept ∧
      t.accept.network.sessions = t.network.sessions ∧ Frame .accept t t.accept := by
  have looked := h.acceptOn_eq
  cases taken : f.take? with
  | none =>
      rw [taken] at looked
      have same : t.accept = t := by
        simp only [Tunnel.accept, looked]
      rw [same]
      exact ⟨f, h, rfl, List.prefix_rfl, fun _ old => .inl old, fun _ _ _ _ => rfl⟩
  | some r =>
      obtain ⟨s, f'⟩ := r
      rw [taken] at looked
      have same : t.accept = { t with
          network := { t.network with demuxers := [⟨f', .memory 0, shutdown⟩] }
          held := t.held ++ [s] } := by
        simp only [Tunnel.accept, looked]
        rfl
      rw [same]
      exact ⟨f', h.take taken, rfl, List.prefix_rfl, fun _ old => .inl old, fun _ _ _ _ => rfl⟩

theorem assign (h : Sound address p N k f t) (waiting : f.count < t.network.sessions.length) :
    Sound address p N k (f.assign (.session f.count .second)) { t with network := { t.network with
      demuxers := [⟨f.assign (.session f.count .second), .memory 0, shutdown⟩]
      sockets := listening address (unassigned (f.count + 1) t.network.sessions.length) } } := by
  have atWork_iff := f.atWork_assign_iff (.session f.count .second)
  refine { h with
    demuxers := rfl
    sockets := rfl
    orderly := h.orderly.assign _
    count := waiting
    workers := ?workers
    served := ?served
    resigned := ?resigned
    session := fun j s hs => (h.session j s hs).mono (Nat.le_refl k) (Nat.le_refl _) Iff.rfl }
  case workers =>
    intro x hx
    obtain hx | hx := List.mem_append.1 hx
    · exact h.workers x hx
    · rw [List.mem_singleton.1 hx]
  case served =>
    intro j hj
    obtain old | new := Nat.lt_or_eq_of_le (Nat.le_of_lt_succ hj)
    · exact (h.served j old).imp_left fun working => (atWork_iff j).2 (.inl working)
    · exact .inl ((atWork_iff j).2 (.inr new))
  case resigned =>
    intro j closed
    obtain ⟨counted, resigned⟩ := h.resigned j closed
    refine ⟨Nat.lt_succ_of_lt counted, fun working => ?_⟩
    obtain working | new := (atWork_iff j).1 working
    · exact resigned working
    · exact Nat.ne_of_lt counted new

theorem accept_listening {g : Signals} (unfired : g.isFired ⟨0, []⟩ = false)
    (inbox : List Socket) :
    (listening address inbox).accept g 0 =
      match inbox with
      | [] => (.pending, listening address [])
      | s :: rest => (.ready s, listening address rest) := by
  simp only [Exchange.accept, listening, List.getElem?_cons_zero, unfired, Bool.false_eq_true,
    if_false]
  cases inbox <;> rfl

theorem acceptorStep?_eq (h : Sound address p N k f t) :
    f.acceptorStep? (Network.supply (Network.acceptOnMuxListener (.memory 0)) shutdown) t.network =
      if f.count < t.network.sessions.length then
        some (f.assign (.session f.count .second), { t.network with
          sockets := listening address (unassigned (f.count + 1) t.network.sessions.length) })
      else none := by
  let supply := Network.supply (Network.acceptOnMuxListener (.memory 0)) shutdown
  have unshut : supply.isShut t.network = false := h.unshut
  have open_binding : t.network.signals.isFired ⟨0, []⟩ = false := h.unclosed
  have looked : supply.acceptConnection t.network =
      ((t.network.sockets.accept t.network.signals 0).1,
        { t.network with sockets := (t.network.sockets.accept t.network.signals 0).2 }) := rfl
  rw [h.sockets, accept_listening open_binding] at looked
  rw [FanIn.acceptorStep?, h.accepting, unshut]
  simp only [Bool.not_true, Bool.false_eq_true, if_false]
  by_cases waiting : f.count < t.network.sessions.length
  · rw [unassigned_of_lt waiting] at looked
    rw [if_pos waiting, looked]
    rfl
  · rw [unassigned_of_le (Nat.le_of_not_lt waiting)] at looked
    rw [if_neg waiting, looked]

theorem demuxer (h : Sound address p N k f t) :
    t.network.demuxers[0]? = some ⟨f, .memory 0, shutdown⟩ := by
  rw [h.demuxers]
  rfl

theorem modify_demuxers (h : Sound address p N k f t) (f' : FanIn Socket Stream) :
    (t.network.demuxers.modify 0 fun d => { d with fan := f' }) = [⟨f', .memory 0, shutdown⟩] := by
  rw [h.demuxers]
  rfl

theorem offer (h : Sound address p N k f t) {j : Nat} (working : f.AtWork j)
    (free : f.isParked j = false) {x : Stream} (known : ∃ i < k, IsEnd N i .second x) :
    Sound address p N k (f.offer j x) { t with
      network := { t.network with demuxers := [⟨f.offer j x, .memory 0, shutdown⟩] } } := by
  obtain ⟨workers, count, accepting⟩ := f.workers_of_offer j x
  have line := h.orderly.line_offer j x
  refine { h with
    demuxers := rfl
    sockets := ?sockets
    orderly := h.orderly.offer working free x
    accepting := accepting.trans h.accepting
    count := Nat.le_trans (Nat.le_of_eq count) h.count
    workers := ?workers
    served := ?served
    resigned := ?resigned
    session := fun j s hs => (h.session j s hs).mono (Nat.le_refl k) (Nat.le_refl _) Iff.rfl
    line := ?line
    places := ?places }
  case sockets =>
    rw [count]
    exact h.sockets
  case workers =>
    rw [workers]
    exact h.workers
  case served =>
    intro i hi
    rw [count] at hi
    exact (h.served i hi).imp_left (FanIn.atWork_congr workers i).2
  case resigned =>
    intro i closed
    rw [count, FanIn.atWork_congr workers]
    exact h.resigned i closed
  case line =>
    intro y hy
    rw [line] at hy
    obtain hy | hy := List.mem_append.1 hy
    · exact h.line y hy
    · rw [List.mem_singleton.1 hy]
      exact known
  case places =>
    intro i hi alive
    obtain ⟨first, second⟩ := h.places i hi alive
    refine ⟨first, second.mono (fun _ hy => hy) ?_ fun _ s hs => ⟨s, hs, fun _ hy => hy⟩⟩
    intro y hy
    rw [line]
    exact List.mem_append_left _ hy

/-- The sessions change without any of them becoming unsound. -/
theorem withSessions (h : Sound address p N k f t) {sessions : List (Session Stream)}
    (same : sessions.length = t.network.sessions.length)
    (session : ∀ j s, sessions[j]? = some s →
      SessionSound N k { t with network := { t.network with sessions := sessions } } j s)
    (places : ∀ i < k, i ∉ t.ended → Somewhere N t f i →
      Somewhere N { t with network := { t.network with sessions := sessions } } f i) :
    Sound address p N k f { t with network := { t.network with sessions := sessions } } := by
  refine { h with
    rotations := ?rotations
    sockets := ?sockets
    signals := ?signals
    fired := ?fired
    count := Nat.le_trans h.count (Nat.le_of_eq same.symm)
    session := session
    places := fun i hi alive =>
      ⟨(h.places i hi alive).1, places i hi alive (h.places i hi alive).2⟩ }
  case rotations =>
    simp only [same]
    exact h.rotations
  case sockets =>
    simp only [same]
    exact h.sockets
  case signals =>
    simp only [same]
    exact h.signals
  case fired =>
    simp only [same]
    exact h.fired

/-- A stream that is with the program or in the line is taken from its session. -/
theorem shift (h : Sound address p N k f t) {j : Nat} (working : f.AtWork j) {s : Session Stream}
    (hs : t.network.sessions[j]? = some s) {x : Stream} {rest : List Stream}
    (waiting : s.halves.second.incoming = x :: rest) (elsewhere : x ∈ t.held ∨ x ∈ f.line) :
    Sound address p N k f { t with network := { t.network with
      sessions := t.network.sessions.set j
        (s.modify .second fun a => { a with incoming := rest }) } } := by
  have sound := h.session j s hs
  have within : j < t.network.sessions.length := (List.getElem?_eq_some_iff.1 hs).1
  apply h.withSessions List.length_set
  · intro i s' hs'
    by_cases hi : j = i
    · subst hi
      rw [List.getElem?_set_self within] at hs'
      cases hs'
      exact { sound with
        abandoned := fun released =>
          Nat.lt_of_lt_of_eq (sound.abandoned released) List.length_set.symm
        closed := fun closed => absurd closed (h.not_closed_of_atWork working)
        incoming := fun y hy =>
          sound.incoming y (by rw [waiting]; exact List.mem_cons_of_mem _ hy) }
    · rw [List.getElem?_set_ne hi] at hs'
      exact (h.session i s' hs').mono (Nat.le_refl k) (Nat.le_of_eq List.length_set.symm) Iff.rfl
  · rintro i - - ⟨y, he, hy | hy | ⟨j', s', hs', hy⟩⟩
    · exact ⟨y, he, .inl hy⟩
    · exact ⟨y, he, .inr (.inl hy)⟩
    · by_cases hj : j = j'
      · subst hj
        cases hs.symm.trans hs'
        rw [waiting] at hy
        obtain rfl | hy := List.mem_cons.1 hy
        · exact ⟨y, he, elsewhere.imp_right .inl⟩
        · exact ⟨y, he, .inr (.inr ⟨j, _, List.getElem?_set_self within, hy⟩)⟩
      · exact ⟨y, he, .inr (.inr ⟨j', s', (List.getElem?_set_ne hj).trans hs', hy⟩)⟩

theorem receive (h : Sound address p N k f t) {j : Nat} (working : f.AtWork j)
    (free : f.isParked j = false) {s : Session Stream} (hs : t.network.sessions[j]? = some s)
    {x : Stream} {rest : List Stream} (waiting : s.halves.second.incoming = x :: rest) :
    Sound address p N k (f.offer j x) { t with network := { t.network with
      demuxers := [⟨f.offer j x, .memory 0, shutdown⟩]
      sessions := t.network.sessions.set j
        (s.modify .second fun a => { a with incoming := rest }) } } := by
  have known : ∃ i < k, IsEnd N i .second x :=
    (h.session j s hs).incoming x (by rw [waiting]; exact List.mem_cons_self)
  have working' := (FanIn.atWork_congr (f.workers_of_offer j x).1 j).2 working
  refine (h.offer working free known).shift working' hs waiting (.inr ?_)
  rw [h.orderly.line_offer]
  exact List.mem_append_right _ (List.mem_singleton_self x)

theorem resign (h : Sound address p N k f t) {j : Nat} (working : f.AtWork j)
    (free : f.isParked j = false) {s : Session Stream} (hs : t.network.sessions[j]? = some s)
    (waiting : s.halves.second.incoming = []) (abandoned : s.halves.first.released = true) :
    Sound address p N k (f.leave j) { t with network := { t.network with
      demuxers := [⟨f.leave j, .memory 0, shutdown⟩]
      signals := t.network.signals.fire (sessionSignal N j) } } := by
  have within : j < t.network.sessions.length := (List.getElem?_eq_some_iff.1 hs).1
  have closed_iff (i : Nat) : sessionSignal N i ∈
      (t.network.signals.fire (sessionSignal N j)).fired ↔ Closed N t i ∨ i = j :=
    Signals.mem_fired_fire_root_iff.trans (or_congr_right ⟨sessionSignal_inj, congrArg _⟩)
  have atWork_iff := f.atWork_leave_iff j
  have line : (f.leave j).line = f.line := FanIn.line_leave_of_free free
  refine { h with
    demuxers := rfl
    signals := ?signals
    fired := ?fired
    orderly := h.orderly.leave j
    workers := fun x hx => h.workers x (List.mem_filter.1 hx).1
    served := ?served
    resigned := ?resigned
    session := ?session
    line := ?line
    places := ?places }
  case signals =>
    rw [Signals.count_fire]
    exact h.signals
  case fired =>
    intro s' hs'
    obtain rfl | old := Signals.mem_fired_fire hs'
    · exact .inl ⟨j, within, rfl⟩
    · exact h.fired s' old
  case served =>
    intro i hi
    by_cases self : i = j
    · exact .inr ((closed_iff i).2 (.inr self))
    · obtain working | closed := h.served i hi
      · exact .inl ((atWork_iff i).2 ⟨working, self⟩)
      · exact .inr ((closed_iff i).2 (.inl closed))
  case resigned =>
    intro i closed
    rw [atWork_iff]
    obtain old | rfl := (closed_iff i).1 closed
    · obtain ⟨counted, resigned⟩ := h.resigned i old
      exact ⟨counted, fun working => resigned working.1⟩
    · obtain ⟨x, hx, rfl⟩ := working
      exact ⟨h.orderly.counted x hx, fun working => working.2 rfl⟩
  case session =>
    intro i s' hs'
    have sound := h.session i s' hs'
    refine { sound with
      left := fun released => (closed_iff i).2 (.inl (sound.left released))
      closed := fun closed => ?_ }
    obtain old | rfl := (closed_iff i).1 closed
    · exact sound.closed old
    · cases hs.symm.trans hs'
      exact ⟨abandoned, waiting⟩
  case line =>
    rw [line]
    exact h.line
  case places =>
    intro i hi alive
    obtain ⟨first, second⟩ := h.places i hi alive
    refine ⟨first, second.mono (fun _ hy => hy) ?_ fun _ s hs => ⟨s, hs, fun _ hy => hy⟩⟩
    intro y hy
    rw [line]
    exact hy

/-- What a worker that accepts finds: the first stream of its session, or that the session is
abandoned, or nothing. -/
theorem acceptStream_eq (h : Sound address p N k f t) {j : Nat} (working : f.AtWork j)
    {s : Session Stream} (hs : t.network.sessions[j]? = some s) :
    Network.acceptStream (.session j .second) t.network =
      match s.halves.second.incoming with
      | x :: rest => (.ready x, { t.network with
          sessions := t.network.sessions.set j
            (s.modify .second fun a => { a with incoming := rest }) })
      | [] => (if s.halves.first.released then .failed .closed else .pending, t.network) := by
  have unclosed : t.network.signals.isFired (sessionSignal N j) = false := by
    rw [← Bool.not_eq_true]
    exact fun fired => h.not_closed_of_atWork working ((isFired_sessionSignal t N j).1 fired)
  have unchanged : t.network.sessions.set j s = t.network.sessions := by
    obtain ⟨within, same⟩ := List.getElem?_eq_some_iff.1 hs
    rw [← same, List.set_getElem_self]
  simp only [Network.acceptStream, hs, Session.acceptStream, Session.receive,
    (h.session j s hs).signal, unclosed, Bool.false_eq_true, if_false,
    show (s.halves.get .second).incoming = s.halves.second.incoming from rfl]
  cases s.halves.second.incoming with
  | nil =>
      simp only [unchanged]
      rfl
  | cons x rest => rfl

/-- What a worker can do: it waits for room, accepts the first stream of its session, closes an
abandoned session without streams, or waits for one. -/
theorem workerStep?_eq (h : Sound address p N k f t) {j : Nat} (working : f.AtWork j)
    {s : Session Stream} (hs : t.network.sessions[j]? = some s) :
    f.workerStep? (Network.supply (Network.acceptOnMuxListener (.memory 0)) shutdown) j
        (.session j .second) t.network =
      if f.isParked j then none
      else match s.halves.second.incoming with
        | x :: rest => some (f.offer j x, { t.network with
            sessions := t.network.sessions.set j
              (s.modify .second fun a => { a with incoming := rest }) })
        | [] =>
            if s.halves.first.released then some (f.leave j, t.network.fire (sessionSignal N j))
            else none := by
  let supply := Network.supply (Network.acceptOnMuxListener (.memory 0)) shutdown
  have unshut : supply.isShut t.network = false := h.unshut
  have signal : s.signal = sessionSignal N j := (h.session j s hs).signal
  have looked : supply.acceptStream (.session j .second) t.network = _ :=
    h.acceptStream_eq working hs
  have closing : supply.close (.session j .second) t.network =
      t.network.fire (sessionSignal N j) := by
    change Network.closeSocket (.session j .second) t.network = _
    simp only [Network.closeSocket, hs, signal]
  have open_session : supply.isClosed (.session j .second) t.network = false := by
    change t.network.isClosed (.session j .second) = false
    simp only [Network.isClosed, Network.socketSignal?, hs, Option.map_some, Option.getD_some,
      signal]
    rw [← Bool.not_eq_true]
    exact fun fired => h.not_closed_of_atWork working ((isFired_sessionSignal t N j).1 fired)
  rw [FanIn.workerStep?, unshut]
  simp only [Bool.false_eq_true, if_false]
  by_cases parked : f.isParked j = true
  · rw [if_pos parked, if_pos parked]
  · rw [if_neg parked, if_neg parked, looked]
    cases waiting : s.halves.second.incoming with
    | cons x rest => rfl
    | nil =>
        by_cases abandoned : s.halves.first.released = true
        · simp only [if_pos abandoned]
          change some (f.leave j, if supply.isClosed (.session j .second) t.network then t.network
            else supply.close (.session j .second) t.network) = _
          rw [open_session, closing]
          rfl
        · simp only [if_neg abandoned]

theorem session_of_atWork (h : Sound address p N k f t) {j : Nat} (working : f.AtWork j) :
    ∃ s, t.network.sessions[j]? = some s := by
  obtain ⟨x, hx, rfl⟩ := working
  have within := Nat.lt_of_lt_of_le (h.orderly.counted x hx) h.count
  exact ⟨_, List.getElem?_eq_getElem within⟩

theorem connection?_eq (h : Sound address p N k f t) {j : Nat} (working : f.AtWork j) :
    f.connection? j = some (.session j .second) := by
  obtain ⟨x, hx, rfl⟩ := working
  rw [← h.workers x hx]
  exact FanIn.connection?_of_mem h.orderly.distinct hx

theorem taskStep?_acceptor_eq (h : Sound address p N k f t) :
    t.network.taskStep? 0 none =
      if f.count < t.network.sessions.length then
        some { t.network with
          demuxers := [⟨f.assign (.session f.count .second), .memory 0, shutdown⟩]
          sockets := listening address (unassigned (f.count + 1) t.network.sessions.length) }
      else none := by
  have looked := h.acceptorStep?_eq
  simp only [Network.taskStep?, h.demuxer, Option.bind_eq_bind, Option.bind_some, looked]
  split
  · rw [← h.modify_demuxers]
    rfl
  · rfl

theorem taskStep?_worker_eq (h : Sound address p N k f t) {j : Nat} (working : f.AtWork j)
    {s : Session Stream} (hs : t.network.sessions[j]? = some s) :
    t.network.taskStep? 0 (some j) =
      if f.isParked j then none
      else match s.halves.second.incoming with
        | x :: rest => some { t.network with
            demuxers := [⟨f.offer j x, .memory 0, shutdown⟩]
            sessions := t.network.sessions.set j
              (s.modify .second fun a => { a with incoming := rest }) }
        | [] =>
            if s.halves.first.released then some { t.network with
              demuxers := [⟨f.leave j, .memory 0, shutdown⟩]
              signals := t.network.signals.fire (sessionSignal N j) }
            else none := by
  have looked := h.workerStep?_eq working hs
  simp only [Network.taskStep?, h.demuxer, Option.bind_eq_bind, Option.bind_some,
    h.connection?_eq working, looked, ← h.modify_demuxers]
  split
  · rfl
  · cases s.halves.second.incoming with
    | cons x rest => rfl
    | nil => cases s.halves.first.released <;> rfl

theorem taskStep_cases (h : Sound address p N k f t) {worker? : Option Nat} {n : Network}
    (step : t.network.taskStep? 0 worker? = some n) :
    ∃ f', TaskStep address N f t worker? f' n := by
  cases worker? with
  | none =>
      rw [h.taskStep?_acceptor_eq] at step
      split at step
      · rename_i waiting
        cases step
        exact ⟨_, .assign waiting⟩
      · cases step
  | some j =>
      have looked := step
      simp only [Network.taskStep?, h.demuxer, Option.bind_eq_bind, Option.bind_some] at looked
      obtain ⟨c, found, -⟩ := Option.bind_eq_some_iff.1 looked
      have working := FanIn.atWork_of_connection? found
      obtain ⟨s, hs⟩ := h.session_of_atWork working
      rw [h.taskStep?_worker_eq working hs] at step
      cases free : f.isParked j with
      | true => simp only [free, if_true, reduceCtorEq] at step
      | false =>
          simp only [free, Bool.false_eq_true, if_false] at step
          cases waiting : s.halves.second.incoming with
          | cons x rest =>
              rw [waiting] at step
              cases step
              exact ⟨_, .receive working free hs waiting⟩
          | nil =>
              simp only [waiting] at step
              split at step
              · rename_i abandoned
                cases step
                exact ⟨_, .resign working free hs waiting abandoned⟩
              · cases step

theorem taskStep (h : Sound address p N k f t) {worker? : Option Nat} {n : Network}
    (step : t.network.taskStep? 0 worker? = some n) :
    ∃ f', Sound address p N k f' { t with network := n } ∧
      n.sessions.length = t.network.sessions.length ∧ n.pipes = t.network.pipes ∧
      f'.remaining n < f.remaining t.network := by
  obtain ⟨f', step⟩ := h.taskStep_cases step
  refine ⟨f', ?_⟩
  cases step with
  | assign waiting => exact ⟨h.assign waiting, rfl, rfl, FanIn.remaining_assign_lt _ waiting⟩
  | receive working free hs waiting =>
      refine ⟨h.receive working free hs waiting, List.length_set, rfl, ?_⟩
      rw [FanIn.remaining_offer]
      exact f.remaining_receive_lt hs waiting
  | resign working free hs waiting abandoned =>
      exact ⟨h.resign working free hs waiting abandoned, rfl, rfl,
        FanIn.remaining_leave_lt working⟩

end Sound

end TransportStack.Tunnel
