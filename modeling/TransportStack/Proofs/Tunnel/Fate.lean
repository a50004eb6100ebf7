import TransportStack.Proofs.Guarding.Operations
import TransportStack.Proofs.Tunnel.Settling

/-!
What becomes of the streams between the dialer and the listener. A stream stays usable as long as
the dialer opens its streams on the same session. Once it has gone on to another session, the worker
of the old one closes it with all streams on it, unless it has to wait for room in the queue.
-/

namespace TransportStack.Tunnel

open Scenario (ByteOp)

variable {address : String} {p : Parameters} {N : Nat} {t : Tunnel}

/-- Whether operations on a stream reach its pipe, of which no half was given up. -/
def Usable (t : Tunnel) (s : Stream) : Prop :=
  t.network.isFired s.signal = false ∧
    ∃ i q, s.pipe? = some i ∧ t.network.pipes[i]? = some q ∧ q.released = false

theorem Usable.perform {q : PipedStream} (h : t.Usable (.piped q)) (op : ByteOp) :
    (op.perform (Network.bytes (.piped q)) t.network).1 =
      (op.perform (Pipe.stream q.half) (t.network.pipes[q.pipe]?.getD (.empty 0))).1 := by
  have performed := ByteStream.perform_guarded_of_unfired (Network.guard q.signal)
    (Network.pipeBytes q.pipe q.half) op h.1
  rw [Network.pipeBytes, ByteStream.perform_within] at performed
  exact congrArg Prod.fst performed

def Waits (t : Tunnel) (worker : Nat) : Prop :=
  ∃ d, t.network.demuxers[0]? = some d ∧ d.fan.isParked worker = true

def Reached (address : String) (p : Parameters) (N : Nat) (t : Tunnel) : Prop :=
  ∃ f, Sound address p N t.dialed.length f t ∧
    t.network.sessions.length = sessionsAfter N t.dialed.length

theorem Reached.of_sound {k : Nat} {f : FanIn Socket Stream} (sound : Sound address p N k f t)
    (sessions : t.network.sessions.length = sessionsAfter N k) : Reached address p N t := by
  obtain rfl := sound.calls
  exact ⟨f, sound, sessions⟩

theorem reached_start (address : String) (p : Parameters) (limit capacity : Nat) :
    Reached address p (max limit 1) (start address p limit capacity) := by
  refine .of_sound (sound_start address p limit capacity) ?_
  exact (sessionsAfter_zero (Nat.lt_of_lt_of_le Nat.zero_lt_one (Nat.le_max_right limit 1))).symm

theorem Frame.refl (a : Act) (t : Tunnel) : Frame a t t :=
  ⟨List.prefix_rfl, fun _ old => .inl old, fun _ _ _ _ => rfl⟩

theorem Frame.network (a : Act) {n : Network}
    (pipes : ∀ i ∉ t.ended, n.pipes[i]? = t.network.pipes[i]?) :
    Frame a t { t with network := n } :=
  ⟨List.prefix_rfl, fun _ old => .inl old, fun i _ alive _ => pipes i alive⟩

/-- What an act preserves, and what it leaves as it was. -/
theorem Reached.act (h : Reached address p N t) (positive : 0 < N) (a : Act) :
    Reached address p N (t.act a) ∧ Frame a t (t.act a) := by
  have reached := h
  obtain ⟨f, sound, sessions⟩ := h
  cases a with
  | dial =>
      obtain ⟨dialed, count, frame⟩ := sound.dial positive sessions
      exact ⟨.of_sound dialed count, frame⟩
  | accept =>
      obtain ⟨f', accepted, same, frame⟩ := sound.accept
      exact ⟨.of_sound accepted ((congrArg List.length same).trans sessions), frame⟩
  | task worker? =>
      cases step : t.network.taskStep? 0 worker? with
      | none =>
          simp only [Tunnel.act, step, Option.getD_none]
          exact ⟨reached, Frame.refl _ t⟩
      | some n =>
          simp only [Tunnel.act, step, Option.getD_some]
          obtain ⟨f', sound', same, pipes, -⟩ := sound.taskStep step
          exact ⟨.of_sound sound' (same.trans sessions), Frame.network _ fun i _ => by rw [pipes]⟩
  | release =>
      cases released : t.network.release? t.roots with
      | none =>
          simp only [Tunnel.act, released, Option.getD_none]
          exact ⟨reached, Frame.refl _ t⟩
      | some n =>
          simp only [Tunnel.act, released, Option.getD_some]
          obtain ⟨sound', same, pipes, -⟩ := sound.release released
          exact ⟨.of_sound sound' (same.trans sessions), Frame.network _ pipes⟩
  | perform s op =>
      by_cases held : s ∈ t.held
      · obtain ⟨sound', frame, same⟩ := sound.perform held op
        simp only [Tunnel.act, if_pos held]
        exact ⟨.of_sound sound' ((congrArg List.length same).trans sessions), frame⟩
      · simp only [Tunnel.act, if_neg held]
        exact ⟨reached, Frame.refl _ t⟩
  | close s =>
      by_cases held : s ∈ t.held
      · obtain ⟨sound', frame, same⟩ := sound.close held
        simp only [Tunnel.act, if_pos held]
        exact ⟨.of_sound sound' ((congrArg List.length same).trans sessions), frame⟩
      · simp only [Tunnel.act, if_neg held]
        exact ⟨reached, Frame.refl _ t⟩
  | drop s =>
      by_cases held : s ∈ t.held
      · obtain ⟨sound', frame, same⟩ := sound.drop held
        simp only [Tunnel.act, if_pos held]
        exact ⟨.of_sound sound' ((congrArg List.length same).trans sessions), frame⟩
      · simp only [Tunnel.act, if_neg held]
        exact ⟨reached, Frame.refl _ t⟩

theorem Reached.run (h : Reached address p N t) (positive : 0 < N) (acts : List Act) :
    Reached address p N (t.run acts) := by
  induction acts generalizing t with
  | nil => exact h
  | cons a as ih => exact ih (h.act positive a).1

theorem Reached.run_frame (h : Reached address p N t) (positive : 0 < N) {acts : List Act} {i : Nat}
    (unused : ∀ a ∈ acts, ¬a.Uses i) (within : i < t.dialed.length) (alive : i ∉ t.ended) :
    t.dialed <+: (t.run acts).dialed ∧ i ∉ (t.run acts).ended ∧
      (t.run acts).network.pipes[i]? = t.network.pipes[i]? := by
  induction acts generalizing t with
  | nil => exact ⟨List.prefix_rfl, alive, rfl⟩
  | cons a as ih =>
      have free := unused a List.mem_cons_self
      obtain ⟨reached, frame⟩ := h.act positive a
      obtain ⟨f, sound, -⟩ := h
      have alive' : i ∉ (t.act a).ended := fun ended => (frame.ended i ended).elim alive free
      obtain ⟨dialed, alive'', pipe⟩ := ih reached
        (fun b hb => unused b (List.mem_cons_of_mem a hb))
        (Nat.lt_of_lt_of_le within frame.dialed.length_le) alive'
      refine ⟨frame.dialed.trans dialed, alive'', pipe.trans (frame.pipes i ?_ alive free)⟩
      rw [sound.pipes]
      exact within

/-- A stream that was not ended is usable unless its session was closed. -/
theorem Reached.usable_iff (h : Reached address p N t) {i : Nat} {side : Half} {s : Stream}
    (he : IsEnd N i side s) (within : i < t.dialed.length) (alive : i ∉ t.ended) :
    t.Usable s ↔ ¬Closed N t (i / N) := by
  obtain ⟨f, sound, -⟩ := h
  obtain ⟨q, rfl, rfl, -, signal⟩ := he.piped
  have signal : (Stream.piped q).signal = streamSignal N q.pipe := signal
  rw [Usable, signal, ← Bool.not_eq_true, sound.isFired_streamSignal alive]
  refine ⟨And.left, fun unclosed => ⟨unclosed, q.pipe, _, rfl, List.getElem?_eq_getElem ?_, ?_⟩⟩
  · rw [sound.pipes]
    exact within
  · apply Bool.eq_false_iff.2
    intro released
    exact alive (sound.intact q.pipe _ (List.getElem?_eq_getElem _) released)

/-- Only a session that the dialer no longer uses is closed. -/
theorem Reached.rotated_of_closed (h : Reached address p N t) (positive : 0 < N) {j : Nat}
    (closed : Closed N t j) : (j + 1) * N < t.dialed.length := by
  obtain ⟨f, sound, sessions⟩ := h
  have within := Nat.lt_of_lt_of_le (sound.resigned j closed).1 sound.count
  have here := sound.session j _ (List.getElem?_eq_getElem within)
  rw [← lt_sessionsAfter_iff positive, ← sessions]
  exact here.abandoned (here.closed closed).1

/-- When nothing is left to do, every such session is closed unless its worker waits. -/
theorem Reached.closed_iff (h : Reached address p N t) (positive : 0 < N) (settled : t.Settled)
    (j : Nat) : Closed N t j ↔ (j + 1) * N < t.dialed.length ∧ ¬t.Waits j := by
  obtain ⟨f, sound, sessions⟩ := h
  have waits : t.Waits j ↔ f.isParked j = true := by
    simp only [Waits, sound.demuxers, List.getElem?_cons_zero, Option.some.injEq, exists_eq_left']
  rw [sound.closed_iff_of_settled settled, sessions, lt_sessionsAfter_iff positive, waits,
    Bool.not_eq_true]

/-- Without the program everything settles, at any time. -/
theorem Reached.settles (h : Reached address p N t) :
    ∃ acts : List Act, (∀ a ∈ acts, a.Unprompted) ∧ (t.run acts).Settled := by
  obtain ⟨f, sound, -⟩ := h
  exact sound.settles

theorem Reached.isEnd (h : Reached address p N t) {i : Nat} {s : Stream}
    (known : t.dialed[i]? = some s ∨ s ∈ t.held ∧ s.pipe? = some i) :
    i < t.dialed.length ∧ ∃ side, IsEnd N i side s := by
  obtain ⟨f, sound, -⟩ := h
  obtain dialed | ⟨held, pipe⟩ := known
  · exact ⟨(List.getElem?_eq_some_iff.1 dialed).1, _, sound.dialed i s dialed⟩
  · obtain ⟨i', within, side, he⟩ := sound.held s held
    obtain ⟨q, rfl, rfl, -⟩ := he.piped
    cases pipe
    exact ⟨within, side, he⟩

/-- Once a call of the dialer has yielded a stream, acts on other streams leave its pipe as it is,
and both its ends are usable until the dialer has made more calls than fit on the session of the
stream. When nothing is left to do after that, which comes about without the program, they are
usable only if the worker of the session waits for room in the queue. -/
theorem usable_until_rotated (address : String) (listening dialing : Parameters) :
    let N := dialing.common.positiveCount Rotation.limitKey 1
    ∃ l d n, connect address listening dialing .empty = (.ok (l, d), n) ∧
      ∀ (before after : List Act) (i : Nat) (s : Stream),
        let t := (Tunnel.mk n d l [] [] []).run before
        let t' := t.run after
        t.dialed[i]? = some s ∨ s ∈ t.held ∧ s.pipe? = some i → i ∉ t.ended →
        (∀ a ∈ after, ¬a.Uses i) →
          t'.network.pipes[i]? = t.network.pipes[i]? ∧
          (t'.dialed.length ≤ (i / N + 1) * N → t'.Usable s) ∧
          (t'.Settled → (t'.Usable s ↔
            t'.dialed.length ≤ (i / N + 1) * N ∨ t'.Waits (i / N))) ∧
          ∃ more, (∀ a ∈ more, a.Unprompted) ∧ (t'.run more).Settled := by
  intro N
  refine ⟨_, _, _, connect_eq address listening dialing, ?_⟩
  intro before after i s t t' known alive unused
  have positive : 0 < N := Nat.le_max_right _ 1
  have start := reached_start address (dialing.seenBy "memmux[0]") N
    (FanIn.capacityOf listening.common)
  rw [Nat.max_eq_left positive] at start
  have reached : Reached address (dialing.seenBy "memmux[0]") N t := start.run positive before
  have reached' : Reached address (dialing.seenBy "memmux[0]") N t' := reached.run positive after
  obtain ⟨within, side, he⟩ := reached.isEnd known
  obtain ⟨dialed, alive', pipe⟩ := reached.run_frame positive unused within alive
  have usable := reached'.usable_iff he (Nat.lt_of_lt_of_le within dialed.length_le) alive'
  refine ⟨pipe, fun current => ?_, fun settled => ?_, reached'.settles⟩
  · refine usable.2 fun closed => ?_
    exact Nat.not_lt_of_le current (reached'.rotated_of_closed positive closed)
  · rw [usable, reached'.closed_iff positive settled, Classical.not_and_iff_not_or_not, Nat.not_lt,
      Classical.not_not]

private theorem connect_plain (address : String) :
    let t := start address .empty 1 1000
    connect address .empty .empty .empty = (.ok (t.listener, t.dialer), t.network) :=
  connect_eq address .empty .empty

def endHere (half : Half) : Stream :=
  let client := Address.named Implementation.memoryMuxName
    "client-00000000-0000-4000-8000-000000000000" 0
  let addresses : Halves Address :=
    ⟨.muxed client 1, .muxed (.named Implementation.memoryMuxName "here" 0) 1⟩
  .piped ⟨0, half, ⟨3, [2]⟩, 1, addresses.get half, addresses.get half.other, none⟩

/-- A stream is dialed and accepted, and two bytes are written to it. -/
def exchange : List Act :=
  [.dial, .task none, .task (some 0), .accept, .perform (endHere .first) (.write [104, 105])]

/-- Another stream is dialed, and everything happens that can happen then. -/
def rotation : List Act :=
  [.dial, .release, .task (some 0), .release, .task none, .task (some 1)]

def exchanged : Tunnel := (start "here" .empty 1 1000).run exchange

def rotated : Tunnel := exchanged.run rotation

theorem rotated_settled : rotated.Settled := by
  have stepped : rotated.network.step?.isNone = true := by decide +kernel
  have released : (rotated.network.release? rotated.roots).isNone = true := by decide +kernel
  exact ⟨Option.isNone_iff_eq_none.1 stepped, Option.isNone_iff_eq_none.1 released⟩

/-- With one stream for each session, the second call ends the stream of the first. -/
theorem usable_until_rotated_single :
    ∃ l d n, connect "here" .empty .empty .empty = (.ok (l, d), n) ∧
      let t := (Tunnel.mk n d l [] [] []).run exchange
      let t' := t.run rotation
      t.dialed[0]? = some (endHere .first) ∧ 0 ∉ t.ended ∧ t'.Settled ∧
        t'.network.pipes[0]? = t.network.pipes[0]? ∧ ¬t'.Usable (endHere .first) := by
  obtain ⟨l, d, n, connected, all⟩ := usable_until_rotated "here" .empty .empty
  refine ⟨l, d, n, connected, ?_⟩
  cases (connect_plain "here").symm.trans connected
  change exchanged.dialed[0]? = some (endHere .first) ∧ 0 ∉ exchanged.ended ∧ rotated.Settled ∧
    rotated.network.pipes[0]? = exchanged.network.pipes[0]? ∧ ¬rotated.Usable (endHere .first)
  have dialed : exchanged.dialed[0]? = some (endHere .first) := by rfl
  have ended : exchanged.ended = [] := rfl
  have calls : rotated.dialed.length = 2 := rfl
  have awake : rotated.network.demuxers.all (fun d => !d.fan.isParked 0) = true := by
    decide +kernel
  have waits : ¬rotated.Waits 0 := by
    rintro ⟨d, hd, parked⟩
    have free := List.all_eq_true.1 awake d (List.mem_of_getElem? hd)
    simp [parked] at free
  have alive : 0 ∉ exchanged.ended := by
    rw [ended]
    exact List.not_mem_nil
  have unused : ∀ a ∈ rotation, ¬a.Uses 0 := by
    simp [rotation, Act.Uses]
  obtain ⟨pipe, -, usable, -⟩ := all exchange rotation 0 (endHere .first) (.inl dialed) alive unused
  refine ⟨dialed, alive, rotated_settled, pipe, fun still => ?_⟩
  have limit : Parameters.positiveCount (Parameters.common .empty) Rotation.limitKey 1 = 1 := rfl
  rw [limit] at usable
  obtain current | parked := (usable rotated_settled).1 still
  · have counted : rotated.dialed.length ≤ 1 := current
    rw [calls] at counted
    exact absurd counted (by decide)
  · exact waits parked

/-- Rotation fires the signal of a stream that is in use, and what was written to it is lost. -/
theorem rotation_ends_stream :
    ∃ l d n, connect "here" .empty .empty .empty = (.ok (l, d), n) ∧
      let t := (Tunnel.mk n d l [] [] []).run exchange
      let t' := t.run rotation
      let received (t : Tunnel) : Option Scenario.ByteResult :=
        ((ByteOp.read 64).perform (Network.bytes (endHere .second)) t.network).1
      t.dialed = [endHere .first] ∧ endHere .second ∈ t.held ∧ t.ended = [] ∧
        t.network.isFired (endHere .first).signal = false ∧ received t = some (.data [104, 105]) ∧
        (∀ a ∈ rotation, ¬a.Uses 0) ∧ t'.ended = [] ∧
        t'.network.isFired (endHere .first).signal = true ∧ received t' = some (.data []) := by
  refine ⟨_, _, _, connect_plain "here", ?_⟩
  have held : exchanged.held = [endHere .first, endHere .second] := by rfl
  have accepted : endHere .second ∈ exchanged.held := by
    rw [held]
    exact List.mem_cons_of_mem _ (List.mem_singleton_self _)
  have unfired : exchanged.network.isFired (endHere .first).signal = false := by decide +kernel
  have fired : rotated.network.isFired (endHere .first).signal = true := by decide +kernel
  have heard : ((ByteOp.read 64).perform (Network.bytes (endHere .second)) exchanged.network).1 =
      some (.data [104, 105]) := by rfl
  have lost : ((ByteOp.read 64).perform (Network.bytes (endHere .second)) rotated.network).1 =
      some (.data []) := by rfl
  have unused : ∀ a ∈ rotation, ¬a.Uses 0 := by
    simp [rotation, Act.Uses]
  exact ⟨by rfl, accepted, by rfl, unfired, heard, unused, by rfl, fired, lost⟩

end TransportStack.Tunnel
