import TransportStack.Proofs.Tunnel.Sound

/-!
Calls of the dialer. A call opens a stream on the last session, after it has dialed one when the
number of earlier calls is a multiple of the limit. No call fails.
-/

namespace TransportStack.Tunnel

variable {address : String} {p : Parameters} {N k : Nat} {f : FanIn Socket Stream} {t : Tunnel}

private theorem getElem?_concat {α : Type} {xs : List α} {y x : α} {i : Nat}
    (h : (xs ++ [y])[i]? = some x) : xs[i]? = some x ∨ i = xs.length ∧ x = y := by
  obtain old | rfl | beyond := Nat.lt_trichotomy i xs.length
  · rw [List.getElem?_append_left old] at h
    exact .inl h
  · rw [List.getElem?_concat_length] at h
    cases h
    exact .inr ⟨rfl, rfl⟩
  · rw [List.getElem?_eq_none (by simpa using Nat.succ_le_of_lt beyond)] at h
    cases h

theorem SessionSound.mono {j : Nat} {s : Session Stream} (h : SessionSound N k t j s) {k' : Nat}
    (later : k ≤ k') {t' : Tunnel}
    (more : t.network.sessions.length ≤ t'.network.sessions.length)
    (same : Closed N t' j ↔ Closed N t j) : SessionSound N k' t' j s where
  signal := h.signal
  abandoned released := Nat.lt_of_lt_of_le (h.abandoned released) more
  left released := same.2 (h.left released)
  closed fired := h.closed (same.1 fired)
  incoming x hx := by
    obtain ⟨i, hi, he⟩ := h.incoming x hx
    exact ⟨i, Nat.lt_of_lt_of_le hi later, he⟩

theorem SessionSound.opened {j : Nat} {s : Session Stream} (h : SessionSound N k t j s)
    (last : j + 1 = t.network.sessions.length) {t' : Tunnel}
    (same : t'.network.sessions.length = t.network.sessions.length)
    (signals : t'.network.signals.fired = t.network.signals.fired) {x : Stream}
    (he : IsEnd N k .second x) : SessionSound N (k + 1) t' j (s.opened .first x) where
  signal := h.signal
  abandoned released := Nat.lt_of_lt_of_eq (h.abandoned released) same.symm
  left released := by
    rw [Closed, signals]
    exact h.left released
  closed closed := by
    -- A session that is closed was abandoned, and so is not the last one.
    rw [Closed, signals] at closed
    exact absurd last (Nat.ne_of_lt (h.abandoned (h.closed closed).1))
  incoming y hy := by
    obtain hy | hy := List.mem_append.1 hy
    · obtain ⟨i, hi, he⟩ := h.incoming y hy
      exact ⟨i, Nat.lt_succ_of_lt hi, he⟩
    · rw [List.mem_singleton.1 hy]
      exact ⟨k, Nat.lt_succ_self k, he⟩

/-- Opening a stream on a session takes nothing out of any session. -/
theorem incoming_opened {sessions : List (Session Stream)} {j : Nat} {s : Session Stream}
    (hs : sessions[j]? = some s) (x : Stream) (i : Nat) (s' : Session Stream)
    (hs' : sessions[i]? = some s') :
    ∃ s'', (sessions.set j (s.opened .first x))[i]? = some s'' ∧
      ∀ y ∈ s'.halves.second.incoming, y ∈ s''.halves.second.incoming := by
  by_cases hi : j = i
  · subst hi
    rw [hs] at hs'
    cases hs'
    have within := (List.getElem?_eq_some_iff.1 hs).1
    exact ⟨_, List.getElem?_set_self within, fun y hy => List.mem_append_left _ hy⟩
  · exact ⟨s', (List.getElem?_set_ne hi).trans hs', fun _ hy => hy⟩

theorem Somewhere.mono {i : Nat} (h : Somewhere N t f i) {t' : Tunnel} {f' : FanIn Socket Stream}
    (held : ∀ x ∈ t.held, x ∈ t'.held) (line : ∀ x ∈ f.line, x ∈ f'.line)
    (sessions : ∀ (j : Nat) (s : Session Stream), t.network.sessions[j]? = some s →
      ∃ s', t'.network.sessions[j]? = some s' ∧
        ∀ x ∈ s.halves.second.incoming, x ∈ s'.halves.second.incoming) :
    Somewhere N t' f' i := by
  obtain ⟨x, he, hx | hx | ⟨j, s, hs, hx⟩⟩ := h
  · exact ⟨x, he, .inl (held x hx)⟩
  · exact ⟨x, he, .inr (.inl (line x hx))⟩
  · obtain ⟨s', hs', more⟩ := sessions j s hs
    exact ⟨x, he, .inr (.inr ⟨j, s', hs', more x hx⟩)⟩

namespace Sound

theorem afterDial (h : Sound address p N k f t) (turn : k = t.network.sessions.length * N)
    (d : MemoryDial) {calls : Nat} (counted : calls % N = k % N) :
    Sound address p N k f { t with
      network := { t.network.afterDial d 0 with
        rotations := [⟨N, some (.session t.network.sessions.length .first), calls⟩] } } := by
  have longer : (t.network.sessions ++ [t.network.nextSession d]).length =
      t.network.sessions.length + 1 := List.length_append
  refine { h with
    rotations := ?rotations
    sockets := ?sockets
    signals := ?signals
    fired := ?fired
    count := Nat.le_trans (Nat.le_succ_of_le h.count) (Nat.le_of_eq longer.symm)
    session := ?session
    places := ?places }
  case rotations =>
    refine ⟨calls, counted, ?_⟩
    change _ = [Rotation.mk N (if (t.network.sessions ++ [t.network.nextSession d]).length = 0
      then none else some (Socket.session
        ((t.network.sessions ++ [t.network.nextSession d]).length - 1) .first)) calls]
    rw [longer, if_neg (Nat.succ_ne_zero _), Nat.add_sub_cancel]
  case sockets =>
    change t.network.sockets.deliver 0 (Socket.session t.network.sessions.length .second) =
      listening address
        (unassigned f.count (t.network.sessions ++ [t.network.nextSession d]).length)
    rw [longer, unassigned_succ h.count, h.sockets]
    rfl
  case signals =>
    change t.network.signals.count + 1 =
      2 + k + (t.network.sessions ++ [t.network.nextSession d]).length
    rw [longer, h.signals, Nat.add_assoc (2 + k)]
  case fired =>
    intro s hs
    obtain ⟨j, hj, same⟩ | own := h.fired s hs
    · exact .inl ⟨j, Nat.lt_of_lt_of_eq (Nat.lt_succ_of_lt hj) longer.symm, same⟩
    · exact .inr own
  case session =>
    intro j s hs
    change (t.network.sessions ++ [t.network.nextSession d])[j]? = some s at hs
    obtain hs | ⟨rfl, rfl⟩ := getElem?_concat hs
    · refine (h.session j s hs).mono (Nat.le_refl k) ?_ Iff.rfl
      exact Nat.le_of_lt (Nat.lt_of_lt_of_eq (Nat.lt_succ_self _) longer.symm)
    · constructor
      case signal =>
        change Signal.mk t.network.signals.count [] = _
        rw [h.signals, sessionSignal]
        congr 1
        rw [turn, Nat.mul_succ, Nat.add_assoc]
      case abandoned => exact fun released => absurd released Bool.false_ne_true
      case left => exact fun released => absurd released Bool.false_ne_true
      case closed =>
        intro closed
        exact absurd (Nat.lt_of_lt_of_le (h.resigned _ closed).1 h.count) (Nat.lt_irrefl _)
      case incoming => exact fun _ hx => absurd hx List.not_mem_nil
  case places =>
    intro i hi alive
    obtain ⟨first, second⟩ := h.places i hi alive
    refine ⟨first, second.mono (fun _ hx => hx) (fun _ hx => hx) fun j s hs => ?_⟩
    refine ⟨s, ?_, fun _ hx => hx⟩
    obtain ⟨within, -⟩ := List.getElem?_eq_some_iff.1 hs
    exact (List.getElem?_append_left within).trans hs

/-- The ends of the next stream are those of the next call. -/
theorem isEnd_nextStream (h : Sound address p N k f t) {j : Nat} {s : Session Stream}
    (hs : t.network.sessions[j]? = some s) (last : j + 1 = t.network.sessions.length)
    (turn : k / N = j) (side : Half) : IsEnd N k side (t.network.nextStream s .first side) := by
  have signal : t.network.nextSignal s.signal.lineage = streamSignal N k := by
    rw [Network.nextSignal, (h.session j s hs).signal, streamSignal, turn, h.signals, ← last]
    congr 1
    omega
  cases side <;> exact ⟨_, rfl, h.pipes, rfl, signal⟩

theorem afterOpen (h : Sound address p N k f t) {j : Nat} {s : Session Stream}
    (hs : t.network.sessions[j]? = some s) (last : j + 1 = t.network.sessions.length)
    (turn : k / N = j) {calls : Nat} (counted : calls % N = (k + 1) % N) :
    Sound address p N (k + 1) f { t with
      network := { t.network.afterOpen j s .first with
        rotations := [⟨N, some (.session j .first), calls⟩] }
      held := t.held ++ [t.network.nextStream s .first .first]
      dialed := t.dialed ++ [t.network.nextStream s .first .first] } := by
  have sound := h.session j s hs
  have own := h.isEnd_nextStream hs last turn .first
  have peer := h.isEnd_nextStream hs last turn .second
  have same_length : (t.network.sessions.set j
      (s.opened .first (t.network.nextStream s .first .second))).length =
        t.network.sessions.length := List.length_set
  have within : j < t.network.sessions.length := Nat.lt_of_lt_of_eq (Nat.lt_succ_self j) last
  refine { h with
    rotations := ?rotations
    sockets := ?sockets
    pipes := ?pipes
    signals := ?signals
    fired := ?fired
    count := Nat.le_trans h.count (Nat.le_of_eq same_length.symm)
    session := ?session
    held := ?held
    line := ?line
    calls := ?calls
    dialed := ?dialed
    places := ?places
    intact := ?intact }
  case rotations =>
    refine ⟨calls, counted, ?_⟩
    change _ = [Rotation.mk N (if (t.network.sessions.set j _).length = 0 then none
      else some (Socket.session ((t.network.sessions.set j _).length - 1) .first)) calls]
    rw [same_length, ← last, if_neg (Nat.succ_ne_zero _), Nat.add_sub_cancel]
  case sockets =>
    change t.network.sockets = _
    rw [h.sockets, ← same_length]
    rfl
  case pipes =>
    change (t.network.pipes ++ [_]).length = k + 1
    rw [List.length_append, h.pipes, List.length_singleton]
  case signals =>
    change t.network.signals.count + 1 = 2 + (k + 1) + (t.network.sessions.set j _).length
    rw [same_length, h.signals]
    omega
  case fired =>
    intro s' hs'
    obtain ⟨i, hi, same⟩ | ⟨i, hi, ended, same⟩ := h.fired s' hs'
    · exact .inl ⟨i, Nat.lt_of_lt_of_eq hi same_length.symm, same⟩
    · exact .inr ⟨i, Nat.lt_succ_of_lt hi, ended, same⟩
  case session =>
    intro i s' hs'
    change (t.network.sessions.set j _)[i]? = some s' at hs'
    by_cases hi : j = i
    · subst hi
      rw [List.getElem?_set_self within] at hs'
      cases hs'
      apply sound.opened last
      · exact same_length
      · rfl
      · exact peer
    · rw [List.getElem?_set_ne hi] at hs'
      exact (h.session i s' hs').mono (Nat.le_succ k) (Nat.le_of_eq same_length.symm) Iff.rfl
  case held =>
    intro x hx
    obtain hx | hx := List.mem_append.1 hx
    · obtain ⟨i, hi, side, he⟩ := h.held x hx
      exact ⟨i, Nat.lt_succ_of_lt hi, side, he⟩
    · rw [List.mem_singleton.1 hx]
      exact ⟨k, Nat.lt_succ_self k, .first, own⟩
  case line =>
    intro x hx
    obtain ⟨i, hi, he⟩ := h.line x hx
    exact ⟨i, Nat.lt_succ_of_lt hi, he⟩
  case calls =>
    change (t.dialed ++ [_]).length = k + 1
    rw [List.length_append, h.calls, List.length_singleton]
  case dialed =>
    intro i x hx
    change (t.dialed ++ [_])[i]? = some x at hx
    obtain hx | ⟨rfl, rfl⟩ := getElem?_concat hx
    · exact h.dialed i x hx
    · rw [h.calls]
      exact own
  case places =>
    intro i hi alive
    obtain old | rfl := Nat.lt_or_eq_of_le (Nat.le_of_lt_succ hi)
    · obtain ⟨⟨x, hx, he⟩, second⟩ := h.places i old alive
      refine ⟨⟨x, List.mem_append_left _ hx, he⟩, ?_⟩
      exact second.mono (fun _ hx => List.mem_append_left _ hx) (fun _ hx => hx)
        (incoming_opened hs _)
    · refine ⟨⟨_, List.mem_append_right _ (List.mem_singleton_self _), own⟩, _, peer, ?_⟩
      refine .inr (.inr ?_)
      refine ⟨j, _, List.getElem?_set_self within, ?_⟩
      exact List.mem_append_right _ (List.mem_singleton_self _)
  case intact =>
    intro i q hq released
    change (t.network.pipes ++ [_])[i]? = some q at hq
    obtain hq | ⟨-, rfl⟩ := getElem?_concat hq
    · exact h.intact i q hq released
    · cases released

theorem last_open (h : Sound address p N k f t) {j : Nat} {s : Session Stream}
    (hs : t.network.sessions[j]? = some s) (last : j + 1 = t.network.sessions.length) :
    t.network.isFired s.signal = false ∧ s.halves.first.released = false ∧
      s.halves.second.released = false := by
  have sound := h.session j s hs
  have kept : s.halves.first.released ≠ true := fun released =>
    Nat.lt_irrefl _ (Nat.lt_of_lt_of_eq (sound.abandoned released) last.symm)
  have unclosed : ¬Closed N t j := fun closed => kept (sound.closed closed).1
  refine ⟨?_, Bool.eq_false_iff.2 kept, Bool.eq_false_iff.2 fun left => unclosed (sound.left left)⟩
  rw [sound.signal, ← Bool.not_eq_true, isFired_sessionSignal]
  exact unclosed

theorem reach (h : Sound address p N k f t) : t.network.sockets.reach address = .ok 0 := by
  have found (inbox : List Socket) : (listening address inbox).table.get? address = some 0 := by
    change [(address, 0)].lookup address = some 0
    rw [List.lookup_cons_self]
  rw [h.sockets, Exchange.reach, found]

private theorem takeTurn_new (h : Sound address p N k f t) (turn : k % N = 0)
    (sessions : t.network.sessions.length = k / N) :
    ∃ n, Network.takeTurn 0 (Network.dial (.bound .addrSolution .memoryMux address p)) t.network =
        (.ok (.session (k / N) .first), n) ∧
      Sound address p N k f { t with network := n } ∧ n.sessions.length = k / N + 1 ∧
      n.pipes = t.network.pipes ∧ ∀ j, n.incoming j = t.network.incoming j := by
  obtain ⟨calls, counted, rotations⟩ := h.rotations
  have full : k = t.network.sessions.length * N := by
    rw [sessions, Nat.div_mul_cancel (Nat.dvd_of_mod_eq_zero turn)]
  let d : MemoryDial := ⟨address, Implementation.bufferOf p⟩
  have none_at_hand (c : Option Socket) (isClosed : Socket → Bool) :
      (Rotation.mk N c calls).begin.reusable? isClosed = none := by
    simp only [Rotation.reusable?, Rotation.begin, counted, turn, if_true]
  have cell : t.network.rotations[0]? = some _ := congrArg (·[0]?) rotations
  have taken := Network.takeTurn_dialed (c := .addrSolution) (p := p) cell (none_at_hand _ _)
    h.reach
  have dialed := h.afterDial full d
    (show (calls % N) % N = k % N by rw [counted, Nat.mod_mod])
  rw [rotations] at taken
  rw [← sessions]
  refine ⟨_, taken, dialed, ?_, rfl, t.network.incoming_afterDial d 0⟩
  change (t.network.sessions ++ [t.network.nextSession d]).length = _
  rw [List.length_append, List.length_singleton]

private theorem takeTurn_again (h : Sound address p N k f t) (turn : k % N ≠ 0)
    (sessions : t.network.sessions.length = k / N + 1) :
    ∃ n, Network.takeTurn 0 (Network.dial (.bound .addrSolution .memoryMux address p)) t.network =
        (.ok (.session (k / N) .first), n) ∧
      Sound address p N k f { t with network := n } ∧ n.sessions.length = k / N + 1 ∧
      n.pipes = t.network.pipes ∧ ∀ j, n.incoming j = t.network.incoming j := by
  obtain ⟨calls, counted, rotations⟩ := h.rotations
  rw [sessions, if_neg (Nat.succ_ne_zero _), Nat.add_sub_cancel] at rotations
  have within : k / N < t.network.sessions.length := by
    rw [sessions]
    exact Nat.lt_succ_self _
  have hs := List.getElem?_eq_getElem within
  obtain ⟨unfired, -, -⟩ := h.last_open hs sessions.symm
  have unclosed : t.network.isClosed (.session (k / N) .first) = false := by
    simp only [Network.isClosed, Network.socketSignal?, hs, Option.map_some, Option.getD_some,
      unfired]
  have at_hand : (Rotation.mk N (some (Socket.session (k / N) .first)) calls).begin.reusable?
      (fun c => t.network.isClosed c) = some (.session (k / N) .first) := by
    simp only [Rotation.reusable?, Rotation.begin, counted, turn, if_false, Option.filter_some,
      unclosed, Bool.not_false, if_true]
  have cell : t.network.rotations[0]? = some _ := congrArg (·[0]?) rotations
  refine ⟨_, Network.takeTurn_reused cell at_hand, ?_, sessions, rfl, fun _ => rfl⟩
  refine { h with
    rotations := ?rotations
    session := fun j s hs => (h.session j s hs).mono (Nat.le_refl k) (Nat.le_refl _) Iff.rfl }
  case rotations =>
    refine ⟨calls % N, by rw [counted, Nat.mod_mod], ?_⟩
    change t.network.rotations.set 0 _ = _
    simp only [rotations, sessions, if_neg (Nat.succ_ne_zero _), Nat.add_sub_cancel]
    rfl

/-- A call has the last session, after it has dialed one if it is the first of its turn. -/
theorem takeTurn (h : Sound address p N k f t) (positive : 0 < N)
    (sessions : t.network.sessions.length = sessionsAfter N k) :
    ∃ n, Network.takeTurn 0 (Network.dial (.bound .addrSolution .memoryMux address p)) t.network =
        (.ok (.session (k / N) .first), n) ∧
      Sound address p N k f { t with network := n } ∧ n.sessions.length = k / N + 1 ∧
      n.pipes = t.network.pipes ∧ ∀ j, n.incoming j = t.network.incoming j := by
  by_cases turn : k % N = 0
  · rw [sessionsAfter_of_mod_eq_zero positive turn] at sessions
    exact h.takeTurn_new turn sessions
  · rw [sessionsAfter_of_mod_ne_zero positive turn] at sessions
    exact h.takeTurn_again turn sessions

/-- With the last session, a call opens a stream on it. -/
theorem openInTurn (h : Sound address p N k f t)
    (sessions : t.network.sessions.length = k / N + 1) (run : Net Product) :
    ∃ s n, Network.openInTurn 0 run (.session (k / N) .first) t.network =
        (.ok (t.network.nextStream s .first .first), n) ∧
      Sound address p N (k + 1) f { t with
        network := n
        held := t.held ++ [t.network.nextStream s .first .first]
        dialed := t.dialed ++ [t.network.nextStream s .first .first] } ∧
      n.sessions.length = k / N + 1 ∧ t.network.pipes <+: n.pipes ∧
      ∀ j, n.incoming j = t.network.incoming j ++
        if k / N = j then [t.network.nextStream s .first .second] else [] := by
  obtain ⟨calls, counted, rotations⟩ := h.rotations
  rw [sessions, if_neg (Nat.succ_ne_zero _), Nat.add_sub_cancel] at rotations
  have within : k / N < t.network.sessions.length := by
    rw [sessions]
    exact Nat.lt_succ_self _
  have hs := List.getElem?_eq_getElem within
  obtain ⟨unfired, -, accompanied⟩ := h.last_open hs sessions.symm
  have counted' : (calls + 1) % N = (k + 1) % N := by
    rw [Nat.add_mod, counted, ← Nat.add_mod]
  have opened : Network.openInTurn 0 run (.session (k / N) .first) t.network = _ :=
    Network.openInTurn_eq (h := .first) hs unfired accompanied run
  rw [rotations] at opened
  refine ⟨_, _, opened, h.afterOpen hs sessions.symm rfl counted', ?_, List.prefix_append _ _, ?_⟩
  · exact List.length_set.trans sessions
  · intro j
    refine (Network.incoming_set hs j).trans ?_
    split
    · rename_i same
      subst same
      rw [Network.incoming_eq hs]
      rfl
    · rw [List.append_nil]

theorem dial_eq {s : Stream} {n : Network}
    (h : Network.dial t.dialer t.network = (.ok (.stream s), n)) :
    t.dial = { t with network := n, held := t.held ++ [s], dialed := t.dialed ++ [s] } := by
  simp only [Tunnel.dial, h]

/-- A call yields a stream on session `k / N`. -/
theorem dial (h : Sound address p N k f t) (positive : 0 < N)
    (sessions : t.network.sessions.length = sessionsAfter N k) :
    Sound address p N (k + 1) f t.dial ∧
      t.dial.network.sessions.length = sessionsAfter N (k + 1) ∧ Frame .dial t t.dial := by
  obtain ⟨n, taken, sound, sessions', pipes, -⟩ := h.takeTurn positive sessions
  obtain ⟨s, n', opened, sound', sessions'', ⟨more, pipes'⟩, -⟩ :=
    sound.openInTurn sessions' (throw .closed)
  have dialed := Network.dial_eq taken opened
  rw [dial_eq (by rw [h.dialer]; exact dialed)]
  refine ⟨sound', ?_, List.prefix_append _ _, fun _ old => .inl old, fun i within _ _ => ?_⟩
  · rw [sessionsAfter_succ positive]
    exact sessions''
  · change n'.pipes[i]? = _
    rw [← pipes', pipes]
    exact List.getElem?_append_left within

end Sound

end TransportStack.Tunnel
