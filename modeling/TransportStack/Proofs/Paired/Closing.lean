import TransportStack.Proofs.Paired.Stock
import TransportStack.Proofs.Signals

/-!
When sessions and streams are closed. Each of them has a signal of its own, that of a stream beneath
that of its session. The signal of a session has fired when the session was closed; the signal of a
stream also when one of its ends was closed, or has failed to read or to write.
-/

namespace TransportStack

namespace Network

variable (n : Network)

def sessionSignal? (i : Nat) : Option Signal := n.sessions[i]?.map (·.signal)

/-- The signals above the one of a stream, given its session if it has one. -/
def above (session? : Option Nat) : List Nat :=
  ((session?.bind n.sessionSignal?).map Signal.lineage).getD []

variable {n}

theorem above_congr {n' : Network} {session? : Option Nat}
    (same : ∀ i, session? = some i → n'.sessionSignal? i = n.sessionSignal? i) :
    n'.above session? = n.above session? := by
  cases session? with
  | none => rfl
  | some i => simp only [above, Option.bind_some, same i rfl]

theorem above_some {i : Nat} {s : Signal} (there : n.sessionSignal? i = some s) :
    n.above (some i) = s.lineage := by
  simp only [above, Option.bind_some, there]
  rfl

theorem isFired_congr {n' : Network} (same : n'.signals.fired = n.signals.fired) (s : Signal) :
    n'.isFired s = n.isFired s := by
  rw [isFired, Signals.isFired, same]
  rfl

theorem sessionSignal?_eq {i : Nat} {s : Session Stream} (there : n.sessions[i]? = some s) :
    n.sessionSignal? i = some s.signal := by
  rw [sessionSignal?, there]
  rfl

section

variable {α : Type} (f : Session Stream → α)

theorem map_setSession {i : Nat} {s s' : Session Stream} (there : n.sessions[i]? = some s)
    (same : f s' = f s) (j : Nat) :
    (n.setSession i s').sessions[j]?.map f = n.sessions[j]?.map f := by
  change ((n.sessions.set i s')[j]?).map f = _
  rw [List.getElem?_set]
  by_cases own : i = j
  · subst own
    rw [if_pos rfl, if_pos (List.getElem?_eq_some_iff.1 there).1, there]
    exact congrArg some same
  · rw [if_neg own]

theorem map_withSession (n : Network) (capacity : Nat) (dialing accepting : Address)
    (dial? : Option MemoryDial) (i : Nat) :
    (n.withSession capacity dialing accepting dial?).sessions[i]?.map f =
      if i = n.sessions.length then
        some (f (.start capacity (n.nextSignal []) dialing accepting dial?))
      else n.sessions[i]?.map f := by
  change ((n.sessions ++ [_])[i]?).map f = _
  rw [List.getElem?_append, List.getElem?_singleton]
  split
  · rw [if_neg (by omega)]
  · split
    · rw [if_pos (by omega)]
      rfl
    · rw [if_neg (by omega), List.getElem?_eq_none (by omega)]

end

theorem sessionSignal?_setSession {i : Nat} {s s' : Session Stream}
    (there : n.sessions[i]? = some s) (same : s'.signal = s.signal) :
    (n.setSession i s').sessionSignal? = n.sessionSignal? :=
  funext (map_setSession (·.signal) there same)

end Network

namespace Paired

/-- Whose signal it is: that of a session, or that of the stream on a pipe. -/
inductive Owns (n : Network) (l : List Happening) : Nat ⊕ Nat → Signal → Prop
  | session {i : Nat} {s : Signal} (there : n.sessionSignal? i = some s) : Owns n l (.inl i) s
  | stream {b : Option Nat × PipedStream} (born : b ∈ births l) :
      Owns n l (.inr b.2.pipe) b.2.signal

structure Signaled (n : Network) (l : List Happening) : Prop where
  below : ∀ o s, Owns n l o s → s.number < n.signals.count
  apart : ∀ o o' s s', Owns n l o s → Owns n l o' s' → s.number = s'.number → o = o'
  fired : ∀ f ∈ n.signals.fired, f.number < n.signals.count
  root : ∀ i s, n.sessionSignal? i = some s → s.ancestors = []
  child : ∀ b ∈ births l, b.2.signal.ancestors = n.above b.1
  closed : ∀ i s, n.sessionSignal? i = some s → (n.isFired s = true ↔ wasClosed i l = true)
  ended : ∀ b ∈ births l, n.isFired b.2.signal = true ↔
    (∃ i, b.1 = some i ∧ wasClosed i l = true) ∨ wasHurt b.2.pipe l = true

namespace Signaled

variable {n n' : Network} {l : List Happening} {e : Happening}

/-- Something that makes nothing with a signal, and fires nothing that had not fired. -/
theorem frame (h : Signaled n l) (count : n'.signals.count = n.signals.count)
    (same : n'.signals.fired = n.signals.fired) (sessions : n'.sessionSignal? = n.sessionSignal?)
    (born : e.births = []) (closes : ∀ i, e.closes i = false)
    (hurts : ∀ b ∈ births l, e.hurts b.2.pipe = true → n.isFired b.2.signal = true) :
    Signaled n' (l ++ [e]) := by
  have births : births (l ++ [e]) = births l := by rw [births_concat, born, List.append_nil]
  have owns {o : Nat ⊕ Nat} {s : Signal} (own : Owns n' (l ++ [e]) o s) : Owns n l o s := by
    cases own with
    | session there => exact .session (sessions ▸ there)
    | stream hb => exact .stream (births ▸ hb)
  refine ⟨?_, ?_, ?_, ?_, ?_, ?_, ?_⟩
  · intro o s own
    rw [count]
    exact h.below o s (owns own)
  · exact fun o o' s s' own own' => h.apart o o' s s' (owns own) (owns own')
  · rw [same, count]
    exact h.fired
  · rw [sessions]
    exact h.root
  · intro b hb
    rw [births] at hb
    rw [Network.above_congr fun i _ => congrFun sessions i]
    exact h.child b hb
  · intro i s there
    rw [sessions] at there
    rw [Network.isFired_congr same, wasClosed_concat, closes, Bool.or_false]
    exact h.closed i s there
  · intro b hb
    rw [births] at hb
    simp only [Network.isFired_congr same, wasClosed_concat, closes, Bool.or_false, wasHurt_concat,
      Bool.or_eq_true]
    constructor
    · exact fun fired => ((h.ended b hb).1 fired).imp_right .inl
    · rintro (session | old | new)
      · exact (h.ended b hb).2 (.inl session)
      · exact (h.ended b hb).2 (.inr old)
      · exact hurts b hb new

/-- Something that neither makes nor closes anything. -/
theorem quiet (h : Signaled n l) (count : n'.signals.count = n.signals.count)
    (same : n'.signals.fired = n.signals.fired) (sessions : n'.sessionSignal? = n.sessionSignal?)
    (born : e.births = []) (closes : ∀ i, e.closes i = false) (unhurt : ∀ k, e.hurts k = false) :
    Signaled n' (l ++ [e]) := by
  refine h.frame count same sessions born closes fun b _ hurt => ?_
  rw [unhurt] at hurt
  cases hurt

/-- One signal was made, with the next number. -/
theorem make (h : Signaled n l) (count : n'.signals.count = n.signals.count + 1)
    {o₀ : Nat ⊕ Nat} (grown : ∀ o s, Owns n' (l ++ [e]) o s →
      Owns n l o s ∨ o = o₀ ∧ s.number = n.signals.count) :
    (∀ o s, Owns n' (l ++ [e]) o s → s.number < n'.signals.count) ∧
      ∀ o o' s s', Owns n' (l ++ [e]) o s → Owns n' (l ++ [e]) o' s' → s.number = s'.number →
        o = o' := by
  constructor
  · intro o s own
    rw [count]
    obtain old | ⟨-, new⟩ := grown o s own
    · exact Nat.lt_succ_of_lt (h.below o s old)
    · exact new ▸ Nat.lt_succ_self _
  · intro o o' s s' own own' same
    obtain old | ⟨rfl, new⟩ := grown o s own <;> obtain old' | ⟨rfl, new'⟩ := grown o' s' own'
    · exact h.apart o o' s s' old old' same
    · exact absurd (same.trans new') (Nat.ne_of_lt (h.below o s old))
    · exact absurd (same.symm.trans new) (Nat.ne_of_lt (h.below o' s' old'))
    · rfl

theorem next_not_mem (h : Signaled n l) (ancestors : List Nat) :
    n.nextSignal ancestors ∉ n.signals.fired :=
  fun fired => Nat.lt_irrefl _ (h.fired _ fired)

theorem pairSockets (h : Signaled n l) (stocked : Stocked n l) (capacity : Nat)
    (dialing accepting : Address) (dial? : Option MemoryDial) :
    Signaled (n.withSession capacity dialing accepting dial?)
      (l ++ [.pairedSockets capacity n.sessions.length]) := by
  have births : births (l ++ [.pairedSockets capacity n.sessions.length]) = births l := by
    rw [births_concat]
    exact List.append_nil _
  have isFired (s : Signal) :
      (n.withSession capacity dialing accepting dial?).isFired s = n.isFired s := rfl
  have closes (i : Nat) :
      (Happening.pairedSockets capacity n.sessions.length).closes i = false := rfl
  have hurts (k : Nat) : (Happening.pairedSockets capacity n.sessions.length).hurts k = false := rfl
  have signal (i : Nat) : (n.withSession capacity dialing accepting dial?).sessionSignal? i =
      if i = n.sessions.length then some (n.nextSignal []) else n.sessionSignal? i :=
    Network.map_withSession (·.signal) n capacity dialing accepting dial? i
  have session_cases {i : Nat} {s : Signal}
      (there : (n.withSession capacity dialing accepting dial?).sessionSignal? i = some s) :
      n.sessionSignal? i = some s ∨ i = n.sessions.length ∧ s = n.nextSignal [] := by
    rw [signal] at there
    split at there
    · exact .inr ⟨‹_›, (Option.some.inj there).symm⟩
    · exact .inl there
  have grown (o : Nat ⊕ Nat) (s : Signal)
      (own : Owns (n.withSession capacity dialing accepting dial?)
        (l ++ [.pairedSockets capacity n.sessions.length]) o s) :
      Owns n l o s ∨ o = .inl n.sessions.length ∧ s.number = n.signals.count := by
    cases own with
    | session there =>
        obtain old | ⟨rfl, rfl⟩ := session_cases there
        · exact .inl (.session old)
        · exact .inr ⟨rfl, rfl⟩
    | stream hb => exact .inl (.stream (births ▸ hb))
  obtain ⟨below, apart⟩ := h.make rfl grown
  refine ⟨below, apart, ?_, ?_, ?_, ?_, ?_⟩
  · exact fun f hf => Nat.lt_succ_of_lt (h.fired f hf)
  · intro i s there
    obtain old | ⟨-, rfl⟩ := session_cases there
    · exact h.root i s old
    · rfl
  · intro b hb
    rw [births] at hb
    rw [Network.above_congr fun i own => ?_]
    · exact h.child b hb
    · have less := stocked.birth_session_lt (i := i) (q := b.2) (own ▸ hb)
      rw [signal, if_neg (Nat.ne_of_lt less)]
  · intro i s there
    rw [isFired, wasClosed_concat, closes, Bool.or_false]
    obtain old | ⟨rfl, rfl⟩ := session_cases there
    · exact h.closed i s old
    · rw [stocked.not_wasClosed (Nat.le_refl _)]
      refine iff_of_false (fun fired => ?_) Bool.false_ne_true
      exact h.next_not_mem [] ((Signals.isFired_root_iff _).1 fired)
  · intro b hb
    rw [births] at hb
    simp only [isFired, wasClosed_concat, wasHurt_concat, closes, hurts, Bool.or_false]
    exact h.ended b hb

/-- A stream came to be, beneath its session if it has one. -/
theorem birth (h : Signaled n l) (stocked : Stocked n l) {b : Option Nat × PipedStream}
    (signals : n'.signals = n.withSignal.signals) (sessions : n'.sessionSignal? = n.sessionSignal?)
    (there : ∀ i, b.1 = some i → ∃ s, n.sessionSignal? i = some s) (born : e.births = [b])
    (own : b.2.signal = n.nextSignal (n.above b.1)) (place : b.2.pipe = n.pipes.length)
    (closes : ∀ i, e.closes i = false) (hurts : ∀ k, e.hurts k = false) :
    Signaled n' (l ++ [e]) := by
  have birth_cases {b' : Option Nat × PipedStream} (hb : b' ∈ births (l ++ [e])) :
      b' ∈ births l ∨ b' = b := by
    rw [births_concat, born] at hb
    exact (List.mem_append.1 hb).imp_right List.mem_singleton.1
  have same : n'.signals.fired = n.signals.fired := by
    rw [signals]
    rfl
  have count : n'.signals.count = n.signals.count + 1 := by
    rw [signals]
    rfl
  have grown (o : Nat ⊕ Nat) (s : Signal) (own' : Owns n' (l ++ [e]) o s) :
      Owns n l o s ∨ o = .inr n.pipes.length ∧ s.number = n.signals.count := by
    cases own' with
    | session there => exact .inl (.session (sessions ▸ there))
    | stream hb =>
        obtain old | rfl := birth_cases hb
        · exact .inl (.stream old)
        · exact .inr ⟨congrArg _ place, congrArg _ own⟩
  obtain ⟨below, apart⟩ := h.make count grown
  refine ⟨below, apart, ?_, ?_, ?_, ?_, ?_⟩
  · intro f hf
    rw [same] at hf
    exact count ▸ Nat.lt_succ_of_lt (h.fired f hf)
  · rw [sessions]
    exact h.root
  · intro b' hb
    rw [Network.above_congr fun i _ => congrFun sessions i]
    obtain old | rfl := birth_cases hb
    · exact h.child b' old
    · rw [own]
      rfl
  · intro i s there
    rw [sessions] at there
    rw [Network.isFired_congr same, wasClosed_concat, closes, Bool.or_false]
    exact h.closed i s there
  · intro b' hb
    simp only [Network.isFired_congr same, wasClosed_concat, closes, wasHurt_concat, hurts,
      Bool.or_false]
    obtain old | rfl := birth_cases hb
    · exact h.ended b' old
    · rw [own, place, stocked.not_wasHurt (Nat.le_refl _)]
      obtain ⟨_ | i, q⟩ := b'
      · refine iff_of_false (fun fired => ?_) ?_
        · exact h.next_not_mem [] ((Signals.isFired_root_iff _).1 fired)
        · simp
      · obtain ⟨s, there⟩ := there i rfl
        have child : n.isFired (n.nextSignal (n.above (some i))) = true ↔ n.isFired s = true := by
          rw [Network.above_some there]
          refine (Signals.isFired_child_iff _ s).trans (or_iff_right ?_)
          exact h.next_not_mem s.lineage
        rw [child, h.closed i s there]
        simp

theorem birth_signal (stocked : Stocked n l) {b : Option Nat × PipedStream} (hb : b ∈ births l)
    {i : Nat} (own : b.1 = some i) : ∃ s, n.sessionSignal? i = some s := by
  have less := stocked.birth_session_lt (i := i) (q := b.2) (own ▸ hb)
  exact ⟨_, Network.sessionSignal?_eq (List.getElem?_eq_getElem less)⟩

section

variable {o : Nat ⊕ Nat} {f : Signal}

/-- Of the signals of sessions, only its own is beneath a signal. -/
theorem suffix_session_iff (h : Signaled n l) (own : Owns n l o f) {i : Nat} {s : Signal}
    (there : n.sessionSignal? i = some s) : f.lineage <:+ s.lineage ↔ o = .inl i := by
  constructor
  · intro above
    have member := Signals.number_mem_of_suffix above
    rw [Signal.lineage, h.root i s there, List.mem_singleton] at member
    exact h.apart _ _ _ _ own (.session there) member
  · rintro rfl
    cases own with
    | session there' =>
        cases there.symm.trans there'
        exact List.suffix_rfl

/-- Of the signals of streams, its own is beneath a signal, and those of the streams of the session
if it is the signal of a session. -/
theorem suffix_stream_iff (h : Signaled n l) (stocked : Stocked n l) (own : Owns n l o f)
    {b : Option Nat × PipedStream} (hb : b ∈ births l) :
    f.lineage <:+ b.2.signal.lineage ↔ (∃ i, b.1 = some i ∧ o = .inl i) ∨ o = .inr b.2.pipe := by
  constructor
  · intro above
    have member := Signals.number_mem_of_suffix above
    rw [Signal.lineage, List.mem_cons, h.child b hb] at member
    obtain same | member := member
    · exact .inr (h.apart _ _ _ _ own (.stream hb) same)
    · cases session : b.1 with
      | none =>
          rw [session] at member
          cases member
      | some i =>
          obtain ⟨s, there⟩ := birth_signal stocked hb session
          rw [session, Network.above_some there, Signal.lineage, h.root i s there,
            List.mem_singleton] at member
          exact .inl ⟨i, rfl, h.apart _ _ _ _ own (.session there) member⟩
  · rintro (⟨i, session, rfl⟩ | rfl)
    · cases own with
      | session there =>
          have lineage : b.2.signal.lineage = b.2.signal.number :: f.lineage := by
            rw [Signal.lineage, h.child b hb, session, Network.above_some there]
          exact lineage ▸ List.suffix_cons _ _
    · generalize place : (Sum.inr b.2.pipe : Nat ⊕ Nat) = o at own
      cases own with
      | session there => cases place
      | stream hb' =>
          obtain rfl := stocked.birth_unique hb hb' (Sum.inr.inj place)
          exact List.suffix_rfl

/-- The signal of a session or stream is fired, which closes the session or ends the stream. -/
theorem fire (h : Signaled n l) (stocked : Stocked n l) (own : Owns n l o f)
    (born : e.births = []) (closes : ∀ i, e.closes i = true ↔ o = .inl i)
    (hurts : ∀ k, e.hurts k = true ↔ o = .inr k) : Signaled (n.fire f) (l ++ [e]) := by
  have births : births (l ++ [e]) = births l := by rw [births_concat, born, List.append_nil]
  have owns {o : Nat ⊕ Nat} {s : Signal} (own : Owns (n.fire f) (l ++ [e]) o s) :
      Owns n l o s := by
    cases own with
    | session there => exact .session there
    | stream hb => exact .stream (births ▸ hb)
  have count : (n.fire f).signals.count = n.signals.count := Signals.count_fire f
  have isFired (s : Signal) :
      (n.fire f).isFired s = true ↔ n.isFired s = true ∨ f.lineage <:+ s.lineage :=
    Signals.isFired_fire_iff
  refine ⟨?_, ?_, ?_, h.root, ?_, ?_, ?_⟩
  · intro o s own
    rw [count]
    exact h.below o s (owns own)
  · exact fun o o' s s' own own' => h.apart o o' s s' (owns own) (owns own')
  · intro f' hf
    rw [count]
    obtain rfl | old := Signals.mem_fired_fire hf
    · exact h.below o f' own
    · exact h.fired f' old
  · intro b hb
    exact h.child b (births ▸ hb)
  · intro i s there
    rw [isFired, h.closed i s there, h.suffix_session_iff own there, wasClosed_concat,
      Bool.or_eq_true, closes]
  · intro b hb
    rw [births] at hb
    simp only [isFired, h.ended b hb, h.suffix_stream_iff stocked own hb, wasClosed_concat,
      wasHurt_concat, Bool.or_eq_true, closes, hurts, and_or_left, exists_or]
    exact or_or_or_comm

/-- The signal of a stream is fired at one of its ends. -/
theorem fire_stream (h : Signaled n l) (stocked : Stocked n l) {q : PipedStream}
    (known : Known l (.piped q)) (born : e.births = []) (closes : ∀ i, e.closes i = false)
    (hurts : ∀ k, e.hurts k = true ↔ q.pipe = k) : Signaled (n.fire q.signal) (l ++ [e]) := by
  obtain ⟨b, hb, place, signal⟩ := known.birth
  rw [← signal]
  refine h.fire stocked (.stream hb) born (fun i => ?_) (fun k => ?_)
  · rw [closes]
    exact iff_of_false Bool.false_ne_true Sum.inr_ne_inl
  · rw [hurts, place, Sum.inr.injEq]

end

theorem step (h : Signaled n l) (stocked : Stocked n l) {a : Act}
    (allowed : State.allows ⟨n, l⟩ a = true) (effect : Effect (roots l) n a e n') :
    Signaled n' (l ++ [e]) := by
  have known {q : PipedStream} (has : decide (.piped q ∈ streams l) = true) :
      Known l (.piped q) := stocked.known_of_mem_streams (of_decide_eq_true has)
  cases effect with
  | pairedSockets capacity dialing accepting dial? =>
      exact h.pairSockets stocked capacity dialing accepting dial?
  | pairedStreams capacity number first second =>
      exact h.birth (b := (none, n.nextPaired number first second)) stocked rfl rfl nofun rfl rfl
        rfl (fun _ => rfl) fun _ => rfl
  | @opened i side s there unfired accompanied =>
      have signal := Network.sessionSignal?_eq there
      refine h.birth (b := (some i, _)) stocked rfl
        (Network.sessionSignal?_setSession there rfl) ?_ rfl ?_ rfl (fun _ => rfl) fun _ => rfl
      · intro j same
        cases same
        exact ⟨_, signal⟩
      · rw [Network.above_some signal]
  | accepted there =>
      exact h.quiet rfl rfl (Network.sessionSignal?_setSession there rfl) rfl (fun _ => rfl)
        fun _ => rfl
  | sent payload there =>
      exact h.quiet rfl rfl (Network.sessionSignal?_setSession there rfl) rfl (fun _ => rfl)
        fun _ => rfl
  | received there =>
      exact h.quiet rfl rfl (Network.sessionSignal?_setSession there rfl) rfl (fun _ => rfl)
        fun _ => rfl
  | openFails | acceptWaits | acceptFails | sendFails | receiveWaits | receiveFails | left
  | dropped => exact h.quiet rfl rfl rfl rfl (fun _ => rfl) fun _ => rfl
  | used there unfired done sane =>
      exact h.quiet rfl rfl rfl rfl (fun _ => rfl) (Happening.hurts_used_of_sane sane _ _)
  | @closed i s side there =>
      have signal := Network.sessionSignal?_eq there
      refine h.fire stocked (.session signal) rfl (fun j => ?_) (fun k => ?_)
      · simp [Happening.closes]
      · simp [Happening.hurts]
  | @usedLate q op fired =>
      refine h.frame rfl rfl rfl rfl (fun _ => rfl) fun b hb hurt => ?_
      obtain ⟨b', hb', place, signal⟩ := (known allowed).birth
      have own : some q.pipe = some b.2.pipe := Happening.pipe?_of_hurts hurt
      rw [stocked.birth_unique hb hb' (place.trans (Option.some.inj own)).symm, signal]
      exact fired
  | broken payload there unfired ended =>
      refine h.fire_stream stocked (known allowed) rfl (fun _ => rfl) fun k => ?_
      simp [Happening.hurts, Stream.pipe?]
  | closedStream q =>
      refine h.fire_stream stocked (known allowed) rfl (fun _ => rfl) fun k => ?_
      simp [Happening.hurts, Stream.pipe?]
  | released =>
      have signals := stocked.plain.release_rest.1
      refine h.quiet (congrArg _ signals) (congrArg _ signals) ?_ rfl (fun _ => rfl) fun _ => rfl
      funext i
      rw [Network.sessionSignal?, stocked.plain.sessions_release, List.getElem?_mapIdx,
        Option.map_map]
      rfl

end Signaled

theorem signaled_start : Signaled .empty [] where
  below _ _ own := by
    cases own with
    | session there => cases there
    | stream hb => cases hb
  apart _ _ _ _ own := by
    cases own with
    | session there => cases there
    | stream hb => cases hb
  fired _ hf := absurd hf List.not_mem_nil
  root _ _ there := by cases there
  child _ hb := absurd hb List.not_mem_nil
  closed _ _ there := by cases there
  ended _ hb := absurd hb List.not_mem_nil

theorem signaled_run (acts : List Act) :
    Signaled (start.run acts).network (start.run acts).history :=
  run_induct signaled_start (fun stocked h allowed effect => h.step stocked allowed effect) acts

theorem isClosed_session {n : Network} {l : List Happening} (h : Signaled n l) {i : Nat}
    (within : i < n.sessions.length) (side : Half) :
    n.isClosed (.session i side) = wasClosed i l := by
  have there := Network.sessionSignal?_eq (List.getElem?_eq_getElem within)
  have same : n.isClosed (.session i side) = n.isFired n.sessions[i].signal := by
    change ((n.sessionSignal? i).map n.isFired).getD true = _
    rw [there]
    rfl
  rw [same, Bool.eq_iff_iff, h.closed i _ there]

end Paired

end TransportStack
