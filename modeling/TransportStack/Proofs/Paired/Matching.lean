import TransportStack.Proofs.Paired.Closing

/-!
How a session matches what its two ends do. What an end has opened and sent is what the other end
has accepted and received so far, followed by what waits for it; the streams have their numbers in
the order in which they were opened.
-/

namespace TransportStack

/-- The number of the first stream that a half opens. -/
def Half.firstNumber : Half → Nat
  | first => 1
  | second => 2

/-- Two streams are the ends of one. -/
structure Stream.Faces (x y : Stream) : Prop where
  ends : ∃ k, x.end? = some (k, .first) ∧ y.end? = some (k, .second)
  signal : y.signal = x.signal
  number : y.number = x.number
  localAddress : y.localAddress = x.remoteAddress
  remoteAddress : y.remoteAddress = x.localAddress

namespace Session

variable {τ : Type} (s : Session τ) (side : Half)

theorem get_relinquish (gone : Half → Bool) : (s.relinquish gone).halves.get side =
    { s.halves.get side with released := (s.halves.get side).released || gone side } := by
  cases side <;> rfl

end Session

namespace Paired

/-- What comes next when some of it all has come. -/
def awaited {α : Type} (all some : List α) : Poll TransportError α :=
  all[some.length]?.elim .pending .ready

theorem awaited_eq {α : Type} (some rest : List α) :
    awaited (some ++ rest) some = rest.head?.elim .pending .ready := by
  rw [awaited, List.getElem?_append_right (Nat.le_refl _), Nat.sub_self, List.head?_eq_getElem?]

/-- The streams that a half has opened have the numbers that fall to it, and the addresses of the
session. -/
def Numbered (s : Session Stream) (i : Nat) (h : Half) (l : List Happening) : Prop :=
  ∀ k x, (opened i h l)[k]? = some x → ∃ q, x = .piped q ∧
    q.half = .first ∧
    q.number = UInt64.ofNat (h.firstNumber + 2 * k) ∧
    q.localAddress = .muxed (s.halves.get h).address q.number ∧
    q.remoteAddress = .muxed (s.halves.get h.other).address q.number

/-- What a session has is what was put into it and not taken out. -/
structure Matches (s : Session Stream) (i : Nat) (l : List Happening) : Prop where
  streams : ∀ h, (opened i h l).map Stream.peer =
    accepted i h.other l ++ (s.halves.get h.other).incoming
  datagrams : ∀ h, sent i h l = received i h.other l ++ (s.halves.get h.other).datagrams
  next : ∀ h, (s.halves.get h).next = UInt64.ofNat (h.firstNumber + 2 * (opened i h l).length)
  numbered : ∀ h, Numbered s i h l
  left : ∀ h, (s.halves.get h).released = true → .session i h ∉ sockets l

def Matched (n : Network) (l : List Happening) : Prop :=
  ∀ i s, n.sessions[i]? = some s → Matches s i l

section

variable {n n' : Network} {l : List Happening} {e : Happening} {roots : List Holding} {a : Act}

/-- Something that moves nothing on a session. -/
theorem Matches.frame {s s' : Session Stream} {i : Nat} (m : Matches s i l)
    (same : ∀ h, (s'.halves.get h).address = (s.halves.get h).address ∧
      (s'.halves.get h).next = (s.halves.get h).next ∧
      (s'.halves.get h).incoming = (s.halves.get h).incoming ∧
      (s'.halves.get h).datagrams = (s.halves.get h).datagrams)
    (nothing : ∀ h, e.opens i h = [] ∧ e.accepts i h = [] ∧ e.sends i h = [] ∧
      e.receives i h = [])
    (left : ∀ h, (s'.halves.get h).released = true → .session i h ∉ sockets (l ++ [e])) :
    Matches s' i (l ++ [e]) := by
  have opened (h : Half) : opened i h (l ++ [e]) = opened i h l := by
    rw [opened_concat, (nothing h).1, List.append_nil]
  refine ⟨fun h => ?_, fun h => ?_, fun h => ?_, fun h => ?_, left⟩
  · rw [opened, accepted_concat, (nothing h.other).2.1, List.append_nil, (same h.other).2.2.1]
    exact m.streams h
  · rw [sent_concat, received_concat, (nothing h).2.2.1, (nothing h.other).2.2.2, List.append_nil,
      List.append_nil, (same h.other).2.2.2]
    exact m.datagrams h
  · rw [opened, (same h).2.1]
    exact m.next h
  · intro k x hx
    rw [opened] at hx
    rw [(same h).1, (same h.other).1]
    exact m.numbered h k x hx

/-- Something that moves nothing on any session. -/
theorem Matched.quiet (h : Matched n l) (fresh : Fresh n e)
    (sessions : n'.sessions = n.sessions)
    (nothing : ∀ i side, e.opens i side = [] ∧ e.accepts i side = [] ∧ e.sends i side = [] ∧
      e.receives i side = []) : Matched n' (l ++ [e]) := by
  intro i s there
  rw [sessions] at there
  have within := (List.getElem?_eq_some_iff.1 there).1
  refine (h i s there).frame (fun _ => ⟨rfl, rfl, rfl, rfl⟩) (nothing i) fun side released has => ?_
  exact (h i s there).left side released (fresh.mem_sockets within has)

/-- Something that happens on one session. -/
theorem Matched.move (h : Matched n l) (fresh : Fresh n e) {i : Nat}
    {s s' : Session Stream} (there : n.sessions[i]? = some s)
    (sessions : n'.sessions = n.sessions.set i s') (session : e.session? = some i)
    (released : ∀ side, (s'.halves.get side).released = (s.halves.get side).released)
    (own : (∀ side, (s'.halves.get side).released = true → .session i side ∉ sockets (l ++ [e])) →
      Matches s' i (l ++ [e])) : Matched n' (l ++ [e]) := by
  intro j s₁ there₁
  rw [sessions] at there₁
  by_cases same : i = j
  · subst same
    have within := (List.getElem?_eq_some_iff.1 there).1
    rw [List.getElem?_set_self within] at there₁
    cases there₁
    refine own fun side gone has => ?_
    rw [released] at gone
    exact (h i s there).left side gone (fresh.mem_sockets within has)
  · rw [List.getElem?_set_ne same] at there₁
    have within := (List.getElem?_eq_some_iff.1 there₁).1
    have apart : e.session? ≠ some j := fun on => same (Option.some.inj (session.symm.trans on))
    refine (h j s₁ there₁).frame (fun _ => ⟨rfl, rfl, rfl, rfl⟩) (fun side => ?_) ?_
    · obtain ⟨opens, accepts, sends, receives, -⟩ := Happening.apart_session apart side
      exact ⟨opens, accepts, sends, receives⟩
    · exact fun side gone has =>
        (h j s₁ there₁).left side gone (fresh.mem_sockets within has)

theorem opens_opened {i : Nat} {half side : Half} {k : Nat} {x y : Stream}
    (hx : ((Happening.opened i side (.ok y)).opens i half)[k]? = some x) :
    side = half ∧ k = 0 ∧ y = x := by
  simp only [Happening.opens, true_and] at hx
  split at hx
  · rw [List.getElem?_singleton] at hx
    split at hx
    · cases hx
      exact ⟨‹_›, ‹_›, rfl⟩
    · cases hx
  · cases hx

/-- A session on which nothing has happened. -/
theorem matches_start {capacity : Nat} {signal : Signal} {dialing accepting : Address}
    {dial? : Option MemoryDial} {c i j : Nat}
    (nothing : ∀ side, opened i side l = [] ∧ accepted i side l = [] ∧ sent i side l = [] ∧
      received i side l = []) :
    Matches (.start capacity signal dialing accepting dial?) i (l ++ [.pairedSockets c j]) := by
  have opened (side : Half) : opened i side (l ++ [.pairedSockets c j]) = [] := by
    rw [opened_concat, (nothing side).1]
    rfl
  refine ⟨fun side => ?_, fun side => ?_, fun side => ?_, fun side k x hx => ?_, ?_⟩
  · rw [opened, accepted_concat, (nothing side.other).2.1]
    cases side <;> rfl
  · rw [sent_concat, received_concat, (nothing side).2.2.1, (nothing side.other).2.2.2]
    cases side <;> rfl
  · rw [opened]
    cases side <;> rfl
  · rw [opened] at hx
    cases hx
  · intro side gone
    cases side <;> cases gone

theorem Matched.step (h : Matched n l) (stocked : Stocked n l)
    (effect : Effect (Paired.roots l) n a e n') : Matched n' (l ++ [e]) := by
  have fresh := effect.fresh
  cases effect with
  | pairedSockets capacity dialing accepting dial? =>
      intro i s there
      change (n.sessions ++ [_])[i]? = some s at there
      rw [List.getElem?_append] at there
      split at there
      · rename_i within
        refine (h i s there).frame (fun _ => ⟨rfl, rfl, rfl, rfl⟩)
          (fun _ => ⟨rfl, rfl, rfl, rfl⟩) fun side released has => ?_
        exact (h i s there).left side released (fresh.mem_sockets within has)
      · rename_i beyond
        rw [List.getElem?_singleton] at there
        split at there <;> cases there
        exact matches_start fun side => stocked.nothing_beyond (Nat.le_of_not_lt beyond) side
  | @opened i side s there unfired accompanied =>
      have m := h i s there
      refine h.move fresh there rfl rfl (fun half => by rw [Session.get_opened]) fun left => ?_
      refine ⟨fun half => ?_, fun half => ?_, fun half => ?_, fun half => ?_, left⟩
      · have before := m.streams half
        by_cases own : side = half
        · subst own
          simp [Session.get_opened, Happening.opens, Happening.accepts, before]
          rfl
        · simp [Session.get_opened, Happening.opens, Happening.accepts, before, own, Ne.symm own]
      · simpa [Session.get_opened, Happening.sends, Happening.receives] using m.datagrams half
      · have before := m.next half
        by_cases own : side = half
        · subst own
          simp [Session.get_opened, Happening.opens, before, Nat.mul_add, ← Nat.add_assoc]
        · simp [Session.get_opened, Happening.opens, before, own, Ne.symm own]
      · intro k x hx
        simp only [Session.get_opened]
        rw [opened_concat, List.getElem?_append] at hx
        split at hx
        · exact m.numbered half k x hx
        · rename_i beyond
          obtain ⟨rfl, last, rfl⟩ := opens_opened hx
          obtain rfl : k = (opened i side l).length := by omega
          exact ⟨_, rfl, rfl, m.next side, rfl, rfl⟩
  | @accepted i side s x rest there unfired waiting =>
      have m := h i s there
      refine h.move fresh there rfl rfl (fun half => by rw [Session.get_keepStreams]) fun left => ?_
      refine ⟨fun half => ?_, fun half => ?_, fun half => ?_, fun half => ?_, left⟩
      · have before := m.streams half
        by_cases own : side = half.other
        · subst own
          simp [Session.get_keepStreams, Happening.opens, before, waiting]
        · simp [Session.get_keepStreams, Happening.opens, before, own, Ne.symm own]
      · simpa [Session.get_keepStreams, Happening.sends, Happening.receives] using m.datagrams half
      · simpa [Session.get_keepStreams, Happening.opens] using m.next half
      · simpa [Numbered, Session.get_keepStreams, Happening.opens] using m.numbered half
  | @sent i side s payload there unfired accompanied =>
      have m := h i s there
      refine h.move fresh there rfl rfl (fun half => ?_) fun left => ?_
      · rw [Session.get_datagramSent]
      refine ⟨fun half => ?_, fun half => ?_, fun half => ?_, fun half => ?_, left⟩
      · simpa [Session.get_datagramSent, Happening.opens, Happening.accepts] using m.streams half
      · have before := m.datagrams half
        by_cases own : side = half
        · subst own
          simp [Session.get_datagramSent, Happening.sends, Happening.receives, before]
        · simp [Session.get_datagramSent, Happening.sends, Happening.receives, before, own,
            Ne.symm own]
      · simpa [Session.get_datagramSent, Happening.opens] using m.next half
      · simpa [Numbered, Session.get_datagramSent, Happening.opens] using m.numbered half
  | @received i side s payload rest there unfired waiting =>
      have m := h i s there
      refine h.move fresh there rfl rfl (fun half => ?_) fun left => ?_
      · rw [Session.get_keepDatagrams]
      refine ⟨fun half => ?_, fun half => ?_, fun half => ?_, fun half => ?_, left⟩
      · simpa [Session.get_keepDatagrams, Happening.opens, Happening.accepts] using m.streams half
      · have before := m.datagrams half
        by_cases own : side = half.other
        · subst own
          simp [Session.get_keepDatagrams, Happening.sends, before, waiting]
        · simp [Session.get_keepDatagrams, Happening.sends, before, own, Ne.symm own]
      · simpa [Session.get_keepDatagrams, Happening.opens] using m.next half
      · simpa [Numbered, Session.get_keepDatagrams, Happening.opens] using m.numbered half
  | released =>
      intro i s' there
      rw [stocked.plain.sessions_release, List.getElem?_mapIdx] at there
      obtain ⟨s, there', rfl⟩ := Option.map_eq_some_iff.1 there
      have within := (List.getElem?_eq_some_iff.1 there').1
      refine (h i s there').frame (fun _ => ?_) (fun _ => ⟨rfl, rfl, rfl, rfl⟩)
        fun side gone has => ?_
      · rw [Session.get_relinquish]
        exact ⟨rfl, rfl, rfl, rfl⟩
      · have has := fresh.mem_sockets within has
        simp only [Session.get_relinquish, Bool.or_eq_true, decide_eq_true_eq] at gone
        exact gone.elim (fun old => (h i s there').left side old has) fun gone => gone has
  | pairedStreams | openFails | acceptWaits | acceptFails | sendFails | receiveWaits | receiveFails
  | closed | left | usedLate | used | broken | closedStream | dropped =>
      exact h.quiet fresh rfl fun _ _ => ⟨rfl, rfl, rfl, rfl⟩

theorem matched_run (acts : List Act) :
    Matched (start.run acts).network (start.run acts).history :=
  run_induct (P := Matched) (fun _ _ there => nomatch there)
    (fun stocked h _ effect => h.step stocked effect) acts

/-- No two streams of a session have the same pipe. -/
theorem nodup_pipes (acts : List Act) (i : Nat) :
    let l := (start.run acts).history
    ((opened i .first l ++ opened i .second l).map Stream.pipe?).Nodup := by
  refine run_induct (P := fun _ l => ((opened i .first l ++ opened i .second l).map _).Nodup)
    List.nodup_nil ?_ acts
  intro n l a e n' stocked nodup _ effect
  have moved : (opened i .first (l ++ [e]) ++ opened i .second (l ++ [e])).Perm
      (opened i .first l ++ opened i .second l ++ (e.opens i .first ++ e.opens i .second)) := by
    simp only [opened_concat, List.append_assoc]
    exact (List.perm_append_comm_assoc _ _ _).append_left _
  refine (moved.map _).nodup_iff.2 ?_
  cases effect with
  | @opened j side s there unfired accompanied =>
      have new : some n.pipes.length ∉
          (opened i .first l ++ opened i .second l).map Stream.pipe? := by
        intro old
        obtain ⟨x, hx, place⟩ := List.mem_map.1 old
        obtain ⟨q, rfl, less⟩ : ∃ q, x = .piped q ∧ q.pipe < n.pipes.length := by
          obtain hx | hx := List.mem_append.1 hx <;>
            exact stocked.pipe_lt (stocked.known_of_opened hx)
        exact Nat.ne_of_lt less (Option.some.inj place)
      by_cases same : j = i
      · have next := nodup.append (List.nodup_singleton _) (List.disjoint_singleton.2 new)
        have place : (n.nextStream s side .first).pipe? = some n.pipes.length := rfl
        cases side <;> simpa [Happening.opens, same, place] using next
      · simpa [Happening.opens, same] using nodup
  | _ => simpa [Happening.opens] using nodup

/-- The numbers of the streams that a half opens do not come round while they are few. -/
theorem toNat_number (h : Half) {k count : Nat} (few : count < Nat.pow 2 63) (within : k < count) :
    (UInt64.ofNat (h.firstNumber + 2 * k)).toNat = h.firstNumber + 2 * k := by
  have first : h.firstNumber ≤ 2 := by cases h <;> decide
  have limit : Nat.pow 2 63 = 9223372036854775808 := rfl
  have size : UInt64.size = 18446744073709551616 := rfl
  exact UInt64.toNat_ofNat_of_lt' (by omega)

section

variable {s : Session Stream} {i : Nat} (m : Matches s i l)
include m

theorem Matches.numbers (h : Half) : (opened i h l).map Stream.number =
    (List.range (opened i h l).length).map fun k => UInt64.ofNat (h.firstNumber + 2 * k) := by
  refine List.ext_getElem? fun k => ?_
  rw [List.getElem?_map, List.getElem?_map]
  by_cases within : k < (opened i h l).length
  · obtain ⟨q, same, -, number, -⟩ := m.numbered h k _ (List.getElem?_eq_getElem within)
    rw [List.getElem?_eq_getElem within, List.getElem?_range within, same]
    exact congrArg some number
  · rw [List.getElem?_eq_none (by omega), List.getElem?_eq_none (by simp; omega)]
    rfl

theorem Matches.numbers_nodup (few : ∀ h, (opened i h l).length < Nat.pow 2 63) :
    ((opened i .first l ++ opened i .second l).map Stream.number).Nodup ∧
      0 ∉ (opened i .first l ++ opened i .second l).map Stream.number := by
  have apart {h h' : Half} {k k' : Nat} (hk : k < (opened i h l).length)
      (hk' : k' < (opened i h' l).length)
      (same : UInt64.ofNat (h.firstNumber + 2 * k) = UInt64.ofNat (h'.firstNumber + 2 * k')) :
      h.firstNumber + 2 * k = h'.firstNumber + 2 * k' := by
    rw [← toNat_number h (few h) hk, same, toNat_number h' (few h') hk']
  have own (h : Half) : ((opened i h l).map Stream.number).Nodup := by
    rw [m.numbers]
    refine List.nodup_range.map_on fun k hk k' hk' same => ?_
    have same := apart (List.mem_range.1 hk) (List.mem_range.1 hk') same
    omega
  have numbered {h : Half} {number : UInt64} (hx : number ∈ (opened i h l).map Stream.number) :
      ∃ k < (opened i h l).length, UInt64.ofNat (h.firstNumber + 2 * k) = number := by
    rw [m.numbers] at hx
    obtain ⟨k, hk, same⟩ := List.mem_map.1 hx
    exact ⟨k, List.mem_range.1 hk, same⟩
  rw [List.map_append]
  constructor
  · refine (own .first).append (own .second) fun number hx hx' => ?_
    obtain ⟨k, hk, rfl⟩ := numbered hx
    obtain ⟨k', hk', same⟩ := numbered hx'
    have same := apart hk' hk same
    simp only [Half.firstNumber] at same
    omega
  · intro zero
    obtain ⟨h, hx⟩ : ∃ h, 0 ∈ (opened i h l).map Stream.number :=
      Half.exists_iff.2 (List.mem_append.1 zero)
    obtain ⟨k, hk, same⟩ := numbered hx
    have positive : 1 ≤ h.firstNumber := by cases h <;> decide
    have none : h.firstNumber + 2 * k = 0 := by
      rw [← toNat_number h (few h) hk, same]
      rfl
    omega

end

theorem Matches.faces {s : Session Stream} {i : Nat} (m : Matches s i l) {h : Half} {k : Nat}
    {y : Stream} (hy : (accepted i h.other l)[k]? = some y) :
    ∃ x, (opened i h l)[k]? = some x ∧ x.Faces y := by
  have within := (List.getElem?_eq_some_iff.1 hy).1
  have same : ((opened i h l).map Stream.peer)[k]? = some y := by
    rw [m.streams, List.getElem?_append_left within, hy]
  rw [List.getElem?_map] at same
  obtain ⟨x, hx, rfl⟩ := Option.map_eq_some_iff.1 same
  obtain ⟨q, rfl, first, -⟩ := m.numbered h k x hx
  refine ⟨_, hx, ⟨q.pipe, ?_, ?_⟩, rfl, rfl, rfl, rfl⟩
  · rw [Stream.end?, first]
  · rw [Stream.peer, Stream.end?, first]
    rfl

section

variable {s : State} {i : Nat} {h : Half} {σ : Session Stream}

/-- On a session that was closed every call fails. -/
theorem answers_of_closed (has : .session i h ∈ sockets s.history)
    (there : s.network.sessions[i]? = some σ) (fired : s.network.isFired σ.signal = true)
    (payload : List UInt8) :
    (s.act (.openStream i h)).history = s.history ++ [.opened i h (.error .closed)] ∧
      (s.act (.accept i h)).history = s.history ++ [.accepted i h (.failed .closed)] ∧
      (s.act (.send i h payload)).history = s.history ++ [.sent i h payload (.error .closed)] ∧
      (s.act (.receive i h)).history = s.history ++ [.received i h (.failed .closed)] := by
  have allowed : decide (.session i h ∈ sockets s.history) = true := decide_eq_true has
  exact ⟨State.history_act (.openFails there (.inl fired)) allowed,
    State.history_act (.acceptFails there (.inl fired)) allowed,
    State.history_act (.sendFails payload there (.inl fired)) allowed,
    State.history_act (.receiveFails there (.inl fired)) allowed⟩

/-- On a session that was not closed and has both of its ends, calls succeed, and those that wait
for something get the first of what was put in and not taken out. -/
theorem answers_of_open (has : ∀ h, .session i h ∈ sockets s.history)
    (there : s.network.sessions[i]? = some σ) (unfired : s.network.isFired σ.signal = false)
    (m : Matches σ i s.history) (payload : List UInt8) :
    (∃ x, (s.act (.openStream i h)).history = s.history ++ [.opened i h (.ok x)]) ∧
      (s.act (.accept i h)).history = s.history ++ [.accepted i h
        (awaited ((opened i h.other s.history).map Stream.peer) (accepted i h s.history))] ∧
      (s.act (.send i h payload)).history = s.history ++ [.sent i h payload (.ok ())] ∧
      (s.act (.receive i h)).history = s.history ++ [.received i h
        (awaited (sent i h.other s.history) (received i h s.history))] := by
  have allowed : decide (.session i h ∈ sockets s.history) = true := decide_eq_true (has h)
  have accompanied : σ.isDeserted h = false :=
    Bool.eq_false_iff.2 fun gone => m.left h.other gone (has h.other)
  have streams := m.streams h.other
  have datagrams := m.datagrams h.other
  rw [Half.other_other] at streams datagrams
  refine ⟨?_, ?_, ?_, ?_⟩
  · exact ⟨_, State.history_act (.opened there unfired accompanied) allowed⟩
  · rw [streams, awaited_eq]
    cases waiting : (σ.halves.get h).incoming with
    | nil => exact State.history_act (.acceptWaits there unfired accompanied waiting) allowed
    | cons x rest => exact State.history_act (.accepted there unfired waiting) allowed
  · exact State.history_act (.sent payload there unfired accompanied) allowed
  · rw [datagrams, awaited_eq]
    cases waiting : (σ.halves.get h).datagrams with
    | nil => exact State.history_act (.receiveWaits there unfired accompanied waiting) allowed
    | cons payload rest => exact State.history_act (.received there unfired waiting) allowed

end

/-- The k-th stream that is accepted at an end is the other end of the k-th one that was opened at
the opposite end, and datagrams arrive as they were sent. The streams that the two ends open have
odd and even numbers in their order, which are different while they are fewer than there are such
numbers. While the session is open and has both ends each call does what it should; once either end
has closed it, all calls fail. -/
theorem sessions_match_one_to_one (acts : List Act) (i : Nat) (h : Half) :
    let s := start.run acts
    let l := s.history
    (∀ (k : Nat) (y : Stream), (accepted i h.other l)[k]? = some y →
        ∃ x : Stream, (opened i h l)[k]? = some x ∧ x.Faces y) ∧
      received i h.other l <+: sent i h l ∧
      (opened i h l).map Stream.number =
        (List.range (opened i h l).length).map (fun k => UInt64.ofNat (h.firstNumber + 2 * k)) ∧
      ((opened i .first l ++ opened i .second l).map Stream.pipe?).Nodup ∧
      ((∀ side, (opened i side l).length < Nat.pow 2 63) →
        ((opened i .first l ++ opened i .second l).map Stream.number).Nodup ∧
          0 ∉ (opened i .first l ++ opened i .second l).map Stream.number) ∧
      (wasClosed i l = false → (∀ side, .session i side ∈ sockets l) → ∀ payload,
        (∃ x, (s.act (.openStream i h)).history = l ++ [.opened i h (.ok x)]) ∧
          (s.act (.accept i h)).history = l ++ [.accepted i h
            (awaited ((opened i h.other l).map Stream.peer) (accepted i h l))] ∧
          (s.act (.send i h payload)).history = l ++ [.sent i h payload (.ok ())] ∧
          (s.act (.receive i h)).history = l ++ [.received i h
            (awaited (sent i h.other l) (received i h l))]) ∧
      (wasClosed i l = true → .session i h ∈ sockets l → ∀ payload,
        (s.act (.openStream i h)).history = l ++ [.opened i h (.error .closed)] ∧
          (s.act (.accept i h)).history = l ++ [.accepted i h (.failed .closed)] ∧
          (s.act (.send i h payload)).history = l ++ [.sent i h payload (.error .closed)] ∧
          (s.act (.receive i h)).history = l ++ [.received i h (.failed .closed)]) := by
  intro s l
  have stocked := stocked_run acts
  have signaled := signaled_run acts
  cases there : s.network.sessions[i]? with
  | none =>
      have nothing := stocked.nothing_beyond (List.getElem?_eq_none_iff.1 there)
      have absent (side : Half) : .session i side ∉ sockets l := fun has =>
        Nat.not_lt.2 (List.getElem?_eq_none_iff.1 there) (stocked.session_lt has)
      have opened (side : Half) : opened i side l = [] := (nothing side).1
      have accepted : accepted i h.other l = [] := (nothing _).2.1
      have received : received i h.other l = [] := (nothing _).2.2.2
      simp only [opened, accepted, received]
      refine ⟨fun k y hy => ?_, List.nil_prefix, rfl, List.nodup_nil,
        fun _ => ⟨List.nodup_nil, List.not_mem_nil⟩, ?_, ?_⟩
      · rw [List.getElem?_nil] at hy
        cases hy
      · exact fun _ has => absurd (has h) (absent h)
      · exact fun _ has => absurd has (absent h)
  | some σ =>
      have m := matched_run acts i σ there
      have fired_iff := signaled.closed i _ (Network.sessionSignal?_eq there)
      refine ⟨fun k y => m.faces, ?_, m.numbers h, nodup_pipes acts i, m.numbers_nodup, ?_, ?_⟩
      · exact ⟨_, (m.datagrams h).symm⟩
      · intro unclosed has payload
        refine answers_of_open has there ?_ m payload
        rw [← Bool.not_eq_true, fired_iff, unclosed]
        exact Bool.false_ne_true
      · intro closed has payload
        exact answers_of_closed has there (fired_iff.2 closed) payload

end

end Paired

end TransportStack
