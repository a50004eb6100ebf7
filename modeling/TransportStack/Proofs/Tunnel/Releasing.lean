import TransportStack.Proofs.Tunnel.Listening

/-!
What nobody holds between the dialer and the listener: the halves of ended streams, the dialing
halves of abandoned sessions and the accepting halves of closed ones. So a release touches no other
stream.
-/

namespace TransportStack.Tunnel

variable {address : String} {p : Parameters} {N k : Nat} {f : FanIn Socket Stream} {t : Tunnel}

/-- What can be released without harm. -/
def Harmless (N : Nat) (t : Tunnel) : Holding → Prop
  | .pipeHalf i _ => i ∈ t.ended
  | .sessionHalf j .first => j + 1 < t.network.sessions.length
  | .sessionHalf j .second => Closed N t j
  | _ => False

theorem releaseOne_frame {x : Holding} (harmless : Harmless N t x) :
    (t.network.releaseOne x).sessions.length = t.network.sessions.length ∧
      (t.network.releaseOne x).signals = t.network.signals ∧
      ∀ i ∉ t.ended, (t.network.releaseOne x).pipes[i]? = t.network.pipes[i]? := by
  cases x with
  | pipeHalf i side =>
      refine ⟨rfl, rfl, fun i' alive => ?_⟩
      exact List.getElem?_modify_ne _ _ fun same => alive (same ▸ harmless)
  | sessionHalf j side => exact ⟨List.length_modify _ _ _, rfl, fun _ _ => rfl⟩
  | single _ | streamBinding _ | socketBinding _ | demuxer _ | dialed _ | accepted _ | rotation _ =>
      exact harmless.elim

theorem Harmless.congr {x : Holding} (h : Harmless N t x) (t' : Tunnel) (ended : t'.ended = t.ended)
    (sessions : t'.network.sessions.length = t.network.sessions.length)
    (signals : t'.network.signals = t.network.signals) : Harmless N t' x := by
  cases x with
  | pipeHalf i side =>
      have still : i ∈ t'.ended := ended ▸ h
      exact still
  | sessionHalf j side =>
      cases side with
      | first => exact Nat.lt_of_lt_of_eq h sessions.symm
      | second =>
          have closed : sessionSignal N j ∈ t'.network.signals.fired := signals ▸ h
          exact closed
  | single _ | streamBinding _ | socketBinding _ | demuxer _ | dialed _ | accepted _ | rotation _ =>
      exact h

namespace Sound

theorem first_held (h : Sound address p N k f t) {j : Nat}
    (last : j + 1 = t.network.sessions.length) :
    .sessionHalf j .first ∈ t.network.held t.roots := by
  obtain ⟨calls, -, rotations⟩ := h.rotations
  rw [← last, if_neg (Nat.succ_ne_zero j), Nat.add_sub_cancel] at rotations
  have root : t.network.Grasps t.roots (.rotation 0) := by
    refine .inl (List.mem_append_left _ (List.mem_append_left _ ?_))
    rw [h.dialer]
    exact List.mem_cons_self
  refine Network.mem_held root (d := 1) (Nat.le_add_left 1 _) ⟨_, ?_, rfl⟩
  simp only [Network.heldBy, rotations, List.getElem?_cons_zero, Option.bind_some, Option.map_some,
    Option.getD_some, Socket.holdings]
  exact List.mem_singleton_self _

theorem listener_grasped (h : Sound address p N k f t) :
    t.network.Grasps t.roots (.demuxer 0) ∧ t.network.Grasps t.roots (.socketBinding 0) := by
  have roots : t.roots = t.dialer.holdings ++ [.demuxer 0, .socketBinding 0] ++
      t.held.flatMap Stream.holdings := by
    rw [Tunnel.roots, h.listener]
    rfl
  constructor
  all_goals
    refine .inl ?_
    rw [roots]
    refine List.mem_append_left _ (List.mem_append_right _ ?_)
    simp

theorem task_grasped (h : Sound address p N k f t) {x : Holding}
    (hx : x ∈ Demuxer.taskHoldings ⟨f, .memory 0, shutdown⟩) : t.network.Grasps t.roots x := by
  refine .inr ⟨_, ?_, hx⟩
  rw [h.demuxers]
  exact List.mem_singleton_self _

/-- The accepting half of a session is held until the session is closed: by the listener, or by the
worker of the session. -/
theorem second_led (h : Sound address p N k f t) {j : Nat} (within : j < t.network.sessions.length)
    (unclosed : ¬Closed N t j) :
    ∃ x, t.network.Grasps t.roots x ∧ ∃ d ≤ 1, t.network.LeadsTo d x (.sessionHalf j .second) := by
  by_cases counted : j < f.count
  · obtain ⟨x, hx, rfl⟩ := (h.served j counted).resolve_right unclosed
    refine ⟨_, h.task_grasped ?_, 0, Nat.zero_le 1, rfl⟩
    simp only [Demuxer.taskHoldings, List.mem_append, List.mem_flatMap]
    refine .inl (.inl (.inr ⟨x, hx, ?_⟩))
    rw [h.workers x hx]
    exact List.mem_singleton_self _
  · refine ⟨_, h.listener_grasped.2, 1, Nat.le_refl 1, _, ?_, rfl⟩
    rw [Network.heldBy, h.sockets]
    exact List.mem_flatMap.2 ⟨_, mem_unassigned counted within, List.mem_singleton_self _⟩

theorem holdings_of_isEnd {i : Nat} {side : Half} {x : Stream} (h : IsEnd N i side x) :
    x.holdings = [.pipeHalf i side] := by
  obtain ⟨q, rfl, rfl, rfl, -⟩ := h.piped
  rfl

theorem held_grasped {i : Nat} {side : Half} {x : Stream} (he : IsEnd N i side x)
    (hx : x ∈ t.held) : t.network.Grasps t.roots (.pipeHalf i side) := by
  refine .inl (List.mem_append_right _ (List.mem_flatMap.2 ⟨x, hx, ?_⟩))
  rw [holdings_of_isEnd he]
  exact List.mem_singleton_self _

theorem line_grasped (h : Sound address p N k f t) {i : Nat} {side : Half} {x : Stream}
    (he : IsEnd N i side x) (hx : x ∈ f.line) : t.network.Grasps t.roots (.pipeHalf i side) := by
  apply h.task_grasped
  have own : .pipeHalf i side ∈ x.holdings := by
    rw [holdings_of_isEnd he]
    exact List.mem_singleton_self _
  simp only [Demuxer.taskHoldings, List.mem_append, List.mem_flatMap]
  obtain queued | parked := List.mem_append.1 hx
  · right
    have busy : f.tasks ≠ 0 := by simp [FanIn.tasks, h.accepting]
    rw [if_neg busy]
    exact List.mem_flatMap.2 ⟨x, queued, own⟩
  · left
    obtain ⟨q, hq, rfl⟩ := List.mem_map.1 parked
    exact .inr ⟨q, hq, own⟩

theorem ends_held (h : Sound address p N k f t) {i : Nat} (hi : i < k) (alive : i ∉ t.ended)
    (side : Half) : .pipeHalf i side ∈ t.network.held t.roots := by
  obtain ⟨⟨x, hx, first⟩, y, second, hy⟩ := h.places i hi alive
  have counted : 2 ≤ t.network.holdingCount + 1 := by
    simp only [Network.holdingCount, h.demuxers, List.length_singleton]
    omega
  cases side with
  | first => exact Network.mem_held (held_grasped first hx) (Nat.zero_le _) rfl
  | second =>
      obtain hy | hy | ⟨j, s, hs, hy⟩ := hy
      · exact Network.mem_held (held_grasped second hy) (Nat.zero_le _) rfl
      · exact Network.mem_held (h.line_grasped second hy) (Nat.zero_le _) rfl
      · have unclosed : ¬Closed N t j := by
          intro closed
          rw [((h.session j s hs).closed closed).2] at hy
          exact absurd hy List.not_mem_nil
        obtain ⟨z, root, d, hd, leads⟩ :=
          h.second_led (List.getElem?_eq_some_iff.1 hs).1 unclosed
        refine Network.mem_held root (Nat.le_trans (Nat.succ_le_succ hd) counted) (leads.snoc ?_)
        simp only [Network.heldBy, hs, Option.map_some, Option.getD_some]
        refine List.mem_flatMap.2 ⟨y, List.mem_append_right _ hy, ?_⟩
        rw [holdings_of_isEnd second]
        exact List.mem_singleton_self _

/-- What nobody holds can be released without harm. -/
theorem harmless_of_loose (h : Sound address p N k f t) {x : Holding}
    (unreleased : x ∈ t.network.unreleased) (unheld : x ∉ t.network.held t.roots) :
    Harmless N t x := by
  have there := Network.unreleased_of_mem unreleased
  cases x with
  | pipeHalf i side =>
      obtain ⟨q, hq, -⟩ := there
      have hi : i < k := by
        rw [← h.pipes]
        exact (List.getElem?_eq_some_iff.1 hq).1
      exact Classical.byContradiction fun alive => unheld (h.ends_held hi alive side)
  | single signal =>
      obtain ⟨l, hl, -⟩ := there
      rw [h.links] at hl
      exact nomatch hl
  | sessionHalf j side =>
      obtain ⟨s, hs, -⟩ := there
      have within := (List.getElem?_eq_some_iff.1 hs).1
      cases side with
      | first =>
          obtain earlier | last := Nat.lt_or_eq_of_le (Nat.succ_le_of_lt within)
          · exact earlier
          · exact absurd (h.first_held last) unheld
      | second =>
          apply Classical.byContradiction
          intro unclosed
          obtain ⟨y, root, d, hd, leads⟩ := h.second_led within unclosed
          exact unheld (Network.mem_held root (Nat.le_trans hd (Nat.le_add_left 1 _)) leads)
  | streamBinding i =>
      rw [Network.Unreleased, h.streams] at there
      exact absurd there Bool.false_ne_true
  | socketBinding i =>
      cases i with
      | zero => exact absurd (Network.mem_held h.listener_grasped.2 (Nat.zero_le _) rfl) unheld
      | succ i =>
          rw [Network.Unreleased, h.sockets] at there
          exact absurd there Bool.false_ne_true
  | demuxer i =>
      obtain ⟨d, hd⟩ := there
      rw [h.demuxers] at hd
      cases i with
      | zero => exact absurd (Network.mem_held h.listener_grasped.1 (Nat.zero_le _) rfl) unheld
      | succ i => exact nomatch hd
  | dialed _ | accepted _ | rotation _ => exact there.elim

theorem releaseOne (h : Sound address p N k f t) {x : Holding} (harmless : Harmless N t x) :
    Sound address p N k f { t with network := t.network.releaseOne x } := by
  cases x with
  | pipeHalf i side =>
      refine { h with
        pipes := ?pipes
        session := fun j s hs => (h.session j s hs).mono (Nat.le_refl k) (Nat.le_refl _) Iff.rfl
        intact := ?intact }
      case pipes => exact (List.length_modify Pipe.release _ _).trans h.pipes
      case intact =>
        intro i' q hq released
        change (t.network.pipes.modify i Pipe.release)[i']? = some q at hq
        by_cases same : i = i'
        · exact same ▸ harmless
        · rw [List.getElem?_modify_ne _ _ same] at hq
          exact h.intact i' q hq released
  | sessionHalf j side =>
      have same : (t.network.sessions.modify j fun s => s.release side).length =
          t.network.sessions.length := List.length_modify _ _ _
      apply h.withSessions same
      · intro i s' hs'
        by_cases hi : j = i
        · subst hi
          rw [List.getElem?_modify_eq] at hs'
          obtain ⟨s, hs, rfl⟩ := Option.map_eq_some_iff.1 hs'
          have sound := h.session j s hs
          cases side with
          | first =>
              exact ⟨sound.signal, fun _ => Nat.lt_of_lt_of_eq harmless same.symm, sound.left,
                fun closed => ⟨rfl, (sound.closed closed).2⟩, sound.incoming⟩
          | second =>
              exact ⟨sound.signal,
                fun released => Nat.lt_of_lt_of_eq (sound.abandoned released) same.symm,
                fun _ => harmless, sound.closed, sound.incoming⟩
        · rw [List.getElem?_modify_ne _ _ hi] at hs'
          exact (h.session i s' hs').mono (Nat.le_refl k) (Nat.le_of_eq same.symm) Iff.rfl
      · intro i _ _ second
        refine second.mono (fun _ hx => hx) (fun _ hx => hx) fun i s hs => ?_
        by_cases hi : j = i
        · subst hi
          refine ⟨s.release side, by rw [List.getElem?_modify_eq, hs]; rfl, ?_⟩
          cases side <;> exact fun _ hx => hx
        · exact ⟨s, (List.getElem?_modify_ne _ _ hi).trans hs, fun _ hx => hx⟩
  | single _ | streamBinding _ | socketBinding _ | demuxer _ | dialed _ | accepted _ | rotation _ =>
      exact harmless.elim

theorem releaseAll (h : Sound address p N k f t) {loose : List Holding}
    (harmless : ∀ x ∈ loose, Harmless N t x) :
    let n := loose.foldl Network.releaseOne t.network
    Sound address p N k f { t with network := n } ∧
      n.sessions.length = t.network.sessions.length ∧
      ∀ i ∉ t.ended, n.pipes[i]? = t.network.pipes[i]? := by
  induction loose generalizing t with
  | nil => exact ⟨h, rfl, fun _ _ => rfl⟩
  | cons x xs ih =>
      have first := harmless x List.mem_cons_self
      obtain ⟨sessions, signals, pipes⟩ := releaseOne_frame first
      have others : ∀ y ∈ xs, Harmless N { t with network := t.network.releaseOne x } y := by
        intro y hy
        have unharmed := harmless y (List.mem_cons_of_mem x hy)
        exact unharmed.congr _ rfl sessions signals
      obtain ⟨sound, sessions', pipes'⟩ := ih (h.releaseOne first) others
      exact ⟨sound, sessions'.trans sessions, fun i alive => (pipes' i alive).trans (pipes i alive)⟩

theorem remaining_releaseOne_lt {n : Network} {x : Holding} (harmless : Harmless N t x)
    (there : n.Unreleased x) : (n.releaseOne x).remaining < n.remaining := by
  cases x with
  | pipeHalf i side => exact Network.remaining_release_pipeHalf_lt there
  | sessionHalf j side => exact Network.remaining_release_sessionHalf_lt there
  | single _ | streamBinding _ | socketBinding _ | demuxer _ | dialed _ | accepted _ | rotation _ =>
      exact harmless.elim

theorem release (h : Sound address p N k f t) {n : Network}
    (released : t.network.release? t.roots = some n) :
    Sound address p N k f { t with network := n } ∧
      n.sessions.length = t.network.sessions.length ∧
      (∀ i ∉ t.ended, n.pipes[i]? = t.network.pipes[i]?) ∧
      f.remaining n < f.remaining t.network := by
  obtain ⟨loose, some_loose, all, rfl⟩ := Network.release?_eq_some released
  have harmless : ∀ x ∈ loose, Harmless N t x :=
    fun x hx => h.harmless_of_loose (all x hx).1 (all x hx).2
  obtain ⟨sound, sessions, pipes⟩ := h.releaseAll harmless
  refine ⟨sound, sessions, pipes, ?_⟩
  have less : (loose.foldl Network.releaseOne t.network).remaining < t.network.remaining := by
    cases loose with
    | nil => exact absurd rfl some_loose
    | cons x xs =>
        have there := Network.unreleased_of_mem (all x List.mem_cons_self).1
        calc
          _ ≤ (t.network.releaseOne x).remaining := Network.remaining_releaseAll_le _ xs
          _ < t.network.remaining :=
            remaining_releaseOne_lt (harmless x List.mem_cons_self) there
  rw [FanIn.remaining, FanIn.remaining, sessions]
  exact Nat.add_lt_add_left less _

end Sound

end TransportStack.Tunnel
