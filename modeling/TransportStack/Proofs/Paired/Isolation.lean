import TransportStack.Proofs.Paired.Closing

/-!
Streams do not disturb each other, nor their session. Two runs that differ in what is done with one
stream are compared: they agree on the sessions, on the pipes and signals of all other streams, and
on what comes of everything else that is done.
-/

namespace TransportStack

namespace Paired

/-- What happens without the stream on a pipe. -/
def without (k : Nat) (l : List Happening) : List Happening := l.filter fun e => e.pipe? ≠ some k

section

variable {k : Nat} {l : List Happening}

namespace Happening

variable {e : Happening}

/-- Something that is done with a stream is nothing else. -/
theorem of_pipe? (on : e.pipe? = some k) :
    e.sockets = [] ∧ e.streams = [] ∧ e.births = [] ∧ (∀ x, e.leaves x = false) ∧
      ∀ i, e.closes i = false := by
  cases e with
  | used | closedStream | dropped => exact ⟨rfl, rfl, rfl, fun _ => rfl, fun _ => rfl⟩
  | _ => cases on

theorem drops_of_pipe? (on : e.pipe? = some k) {x : Stream} (other : x.pipe? ≠ some k) :
    e.drops x = false := by
  cases e with
  | dropped y => exact decide_eq_false fun same => other (same ▸ on)
  | _ => rfl

end Happening

theorem without_concat_own {e : Happening} (on : e.pipe? = some k) :
    without k (l ++ [e]) = without k l := by
  rw [without, List.filter_append, List.filter_cons_of_neg (by simpa using on), List.filter_nil,
    List.append_nil, without]

theorem without_concat_other {e : Happening} (apart : e.pipe? ≠ some k) :
    without k (l ++ [e]) = without k l ++ [e] := by
  rw [without, List.filter_append, List.filter_cons_of_pos (by simpa using apart), List.filter_nil,
    without]

theorem flatMap_without {α : Type} {f : Happening → List α}
    (none : ∀ e, e.pipe? = some k → f e = []) (l : List Happening) :
    (without k l).flatMap f = l.flatMap f := by
  induction l with
  | nil => rfl
  | cons e l ih =>
      by_cases on : e.pipe? = some k
      · rw [without, List.filter_cons_of_neg (by simpa using on), List.flatMap_cons, none e on]
        exact ih
      · rw [without, List.filter_cons_of_pos (by simpa using on), List.flatMap_cons,
          List.flatMap_cons]
        exact congrArg _ ih

theorem any_without {p : Happening → Bool} (none : ∀ e, e.pipe? = some k → p e = false)
    (l : List Happening) : (without k l).any p = l.any p := by
  rw [without, List.any_filter]
  congr 1
  funext e
  by_cases on : e.pipe? = some k
  · simp [none e on]
  · simp [on]

theorem sockets_without (k : Nat) (l : List Happening) : sockets (without k l) = sockets l := by
  rw [sockets, flatMap_without fun e on => (Happening.of_pipe? on).1]
  congr 1
  funext x
  rw [any_without fun e on => (Happening.of_pipe? on).2.2.2.1 x]

theorem mem_streams_without {x : Stream} (other : x.pipe? ≠ some k) :
    x ∈ streams (without k l) ↔ x ∈ streams l := by
  rw [streams, streams, flatMap_without fun e on => (Happening.of_pipe? on).2.1, List.mem_filter,
    List.mem_filter, any_without fun e on => Happening.drops_of_pipe? on other]

theorem births_without (k : Nat) (l : List Happening) : births (without k l) = births l :=
  flatMap_without (fun _ on => (Happening.of_pipe? on).2.2.1) l

theorem wasClosed_without (i : Nat) : wasClosed i (without k l) = wasClosed i l :=
  any_without (fun _ on => (Happening.of_pipe? on).2.2.2.2 i) l

theorem wasHurt_without {j : Nat} (other : j ≠ k) : wasHurt j (without k l) = wasHurt j l := by
  refine any_without (fun e on => ?_) l
  have apart : e.pipe? ≠ some j := fun own => other (Option.some.inj (own.symm.trans on))
  exact (Happening.apart_pipe apart .first).2.2.2

end

/-- Two networks that agree but for one pipe and the signals that have fired. -/
structure Alike (k : Nat) (n n' : Network) : Prop where
  sessions : n'.sessions = n.sessions
  count : n'.signals.count = n.signals.count
  length : n'.pipes.length = n.pipes.length
  pipes : ∀ j ≠ k, n'.pipes[j]? = n.pipes[j]?

section

variable {k : Nat} {n n' : Network} {l : List Happening}

theorem Alike.sessionSignal? (alike : Alike k n n') : n'.sessionSignal? = n.sessionSignal? := by
  funext i
  rw [Network.sessionSignal?, alike.sessions, Network.sessionSignal?]

theorem Alike.queued (alike : Alike k n n') : n'.queued = n.queued := by
  funext i
  rw [Network.queued, alike.sessions, Network.queued]

/-- The signals of sessions have fired in both or in neither. -/
theorem isFired_session_alike (alike : Alike k n n') (signaled : Signaled n l)
    (signaled' : Signaled n' (without k l)) {i : Nat} {s : Signal}
    (there : n.sessionSignal? i = some s) : n'.isFired s = n.isFired s := by
  rw [Bool.eq_iff_iff, signaled'.closed i s (alike.sessionSignal? ▸ there),
    signaled.closed i s there, wasClosed_without]

/-- The signals of other streams have fired in both or in neither. -/
theorem isFired_stream_alike (signaled : Signaled n l) (signaled' : Signaled n' (without k l))
    {q : PipedStream} (known : Known l (.piped q)) (other : q.pipe ≠ k) :
    n'.isFired q.signal = n.isFired q.signal := by
  obtain ⟨b, hb, place, signal⟩ := known.birth
  rw [← signal, Bool.eq_iff_iff, signaled'.ended b (births_without k l ▸ hb), signaled.ended b hb,
    wasHurt_without (place ▸ other)]
  simp only [wasClosed_without]

theorem hasEnd_alike (alike : Alike k n n') {j : Nat} (other : j ≠ k) {h : Half} :
    HasEnd n' (without k l) j h ↔ HasEnd n l j h := by
  have has {x : Stream} (own : x.end? = some (j, h)) : Has n' (without k l) x ↔ Has n l x := by
    have apart : x.pipe? ≠ some k := by
      rw [Stream.pipe?_of_end? own]
      exact fun same => other (Option.some.inj same)
    rw [Has, mem_streams_without apart, sockets_without, alike.queued, Has]
  constructor
  · rintro ⟨x, hx, own⟩
    exact ⟨x, (has own).1 hx, own⟩
  · rintro ⟨x, hx, own⟩
    exact ⟨x, (has own).2 hx, own⟩

end

/-- Two states, in the second of which nothing was done with one stream. -/
structure Apart (k : Nat) (s s' : State) : Prop where
  alike : Alike k s.network s'.network
  history : s'.history = without k s.history

section

variable {k : Nat} {n n' n₁ : Network} {l : List Happening} {a : Act} {e : Happening}

/-- What is done with a stream leaves all else as it was. -/
theorem Alike.own (alike : Alike k n n') {roots : List Holding} (effect : Effect roots n a e n₁)
    (on : a.pipe? = some k) : Alike k n₁ n' := by
  have fired (s : Signal) : Alike k (n.fire s) n' :=
    ⟨alike.sessions, alike.count.trans (Signals.count_fire s).symm, alike.length, alike.pipes⟩
  cases effect with
  | usedLate | dropped => exact alike
  | broken | closedStream => exact fired _
  | @used q op p p' answer there unfired done sane =>
      refine ⟨alike.sessions, alike.count, ?_, fun j other => ?_⟩
      · exact alike.length.trans List.length_set.symm
      · have apart : q.pipe ≠ j := fun same => other (same.symm.trans (Option.some.inj on))
        exact (alike.pipes j other).trans (List.getElem?_set_ne apart).symm
  | _ => cases on

namespace Alike

theorem nextSignal (alike : Alike k n n') : n'.nextSignal = n.nextSignal := by
  funext ancestors
  rw [Network.nextSignal, alike.count, Network.nextSignal]

theorem nextStream (alike : Alike k n n') : n'.nextStream = n.nextStream := by
  funext s h side
  cases side <;> simp only [Network.nextStream, alike.nextSignal, alike.length]

theorem setSession (alike : Alike k n n') (i : Nat) (s : Session Stream) :
    Alike k (n.setSession i s) (n'.setSession i s) :=
  ⟨congrArg (·.set i s) alike.sessions, alike.count, alike.length, alike.pipes⟩

theorem fire (alike : Alike k n n') (s : Signal) : Alike k (n.fire s) (n'.fire s) :=
  ⟨alike.sessions, (Signals.count_fire s).trans (alike.count.trans (Signals.count_fire s).symm),
    alike.length, alike.pipes⟩

theorem setPipe (alike : Alike k n n') (j : Nat) (p : Pipe) :
    Alike k (n.setPipe j p) (n'.setPipe j p) := by
  refine ⟨alike.sessions, alike.count, ?_, fun i other => ?_⟩
  · exact List.length_set.trans (alike.length.trans List.length_set.symm)
  · change (n'.pipes.set j p)[i]? = (n.pipes.set j p)[i]?
    rw [List.getElem?_set, List.getElem?_set, alike.length, alike.pipes i other]

theorem withPipe (alike : Alike k n n') (capacity : Nat) :
    Alike k (n.withPipe capacity) (n'.withPipe capacity) := by
  refine ⟨alike.sessions, congrArg Nat.succ alike.count, ?_, fun j other => ?_⟩
  · change (n'.pipes ++ [_]).length = (n.pipes ++ [_]).length
    rw [List.length_append, List.length_append, alike.length]
  · change (n'.pipes ++ [_])[j]? = (n.pipes ++ [_])[j]?
    rw [List.getElem?_append, List.getElem?_append, alike.length, alike.pipes j other]

theorem withSession (alike : Alike k n n') (capacity : Nat) (dialing accepting : Address)
    (dial? : Option MemoryDial) :
    Alike k (n.withSession capacity dialing accepting dial?)
      (n'.withSession capacity dialing accepting dial?) := by
  refine ⟨?_, congrArg Nat.succ alike.count, alike.length, alike.pipes⟩
  change n'.sessions ++ [_] = n.sessions ++ [_]
  rw [alike.sessions, alike.nextSignal]

theorem release (alike : Alike k n n') (stocked : Stocked n l)
    (stocked' : Stocked n' (without k l)) :
    Alike k ((n.release? (roots l)).getD n) ((n'.release? (roots (without k l))).getD n') := by
  refine ⟨?_, ?_, ?_, fun j other => ?_⟩
  · rw [stocked'.plain.sessions_release, stocked.plain.sessions_release, alike.sessions,
      sockets_without]
  · rw [stocked'.plain.release_rest.1, stocked.plain.release_rest.1, alike.count]
  · rw [stocked'.plain.pipes_release, stocked.plain.pipes_release, List.length_mapIdx,
      List.length_mapIdx, alike.length]
  · rw [stocked'.plain.pipes_release, stocked.plain.pipes_release, List.getElem?_mapIdx,
      List.getElem?_mapIdx, alike.pipes j other]
    have ends : HasEnd n' (without k l) j = HasEnd n l j :=
      funext fun h => propext (hasEnd_alike alike other)
    rw [ends]

end Alike

/-- What is done with something else comes to the same, and leaves the two alike. -/
theorem Alike.transfer (alike : Alike k n n') (stocked : Stocked n l)
    (stocked' : Stocked n' (without k l)) (signaled : Signaled n l)
    (signaled' : Signaled n' (without k l)) (allowed : State.allows ⟨n, l⟩ a = true)
    (apart : a.pipe? ≠ some k) (effect : Effect (roots l) n a e n₁) :
    ∃ n₁', Effect (roots (without k l)) n' a e n₁' ∧ Alike k n₁ n₁' := by
  have there' {i : Nat} {s : Session Stream} (there : n.sessions[i]? = some s) :
      n'.sessions[i]? = some s := alike.sessions ▸ there
  have fired_eq {i : Nat} {s : Session Stream} (there : n.sessions[i]? = some s) :
      n'.isFired s.signal = n.isFired s.signal :=
    isFired_session_alike alike signaled signaled' (Network.sessionSignal?_eq there)
  have stream_eq {q : PipedStream} (has : decide (.piped q ∈ streams l) = true)
      (apart : some q.pipe ≠ some k) : n'.isFired q.signal = n.isFired q.signal := by
    refine isFired_stream_alike signaled signaled' ?_ fun same => apart (congrArg some same)
    exact stocked.known_of_mem_streams (of_decide_eq_true has)
  cases effect with
  | pairedSockets capacity dialing accepting dial? =>
      refine ⟨_, ?_, alike.withSession capacity dialing accepting dial?⟩
      exact alike.sessions ▸ .pairedSockets capacity dialing accepting dial?
  | pairedStreams capacity number first second =>
      refine ⟨_, ?_, alike.withPipe capacity⟩
      have same : n'.nextPaired = n.nextPaired := by
        funext number first second
        rw [Network.nextPaired, alike.length, alike.nextSignal, Network.nextPaired]
      exact same ▸ .pairedStreams capacity number first second
  | @opened i side s there unfired accompanied =>
      refine ⟨_, ?_, (alike.withPipe s.capacity).setSession i
        (s.opened side (n.nextStream s side .second))⟩
      rw [← alike.nextStream]
      exact .opened (there' there) ((fired_eq there).trans unfired) accompanied
  | openFails there late =>
      exact ⟨_, .openFails (there' there) (fired_eq there ▸ late), alike⟩
  | @accepted i side s x rest there unfired waiting =>
      exact ⟨_, .accepted (there' there) ((fired_eq there).trans unfired) waiting,
        alike.setSession i _⟩
  | acceptWaits there unfired accompanied none_waits =>
      exact ⟨_, .acceptWaits (there' there) ((fired_eq there).trans unfired) accompanied none_waits,
        alike⟩
  | acceptFails there late =>
      exact ⟨_, .acceptFails (there' there) (fired_eq there ▸ late), alike⟩
  | @sent i side s payload there unfired accompanied =>
      exact ⟨_, .sent payload (there' there) ((fired_eq there).trans unfired) accompanied,
        alike.setSession i _⟩
  | sendFails payload there late =>
      exact ⟨_, .sendFails payload (there' there) (fired_eq there ▸ late), alike⟩
  | @received i side s payload rest there unfired waiting =>
      exact ⟨_, .received (there' there) ((fired_eq there).trans unfired) waiting,
        alike.setSession i _⟩
  | receiveWaits there unfired accompanied none_waits =>
      exact ⟨_, .receiveWaits (there' there) ((fired_eq there).trans unfired) accompanied
        none_waits, alike⟩
  | receiveFails there late =>
      exact ⟨_, .receiveFails (there' there) (fired_eq there ▸ late), alike⟩
  | closed side there => exact ⟨_, .closed side (there' there), alike.fire _⟩
  | left i side => exact ⟨_, .left i side, alike⟩
  | @usedLate q op fired =>
      exact ⟨_, .usedLate op ((stream_eq allowed apart).trans fired), alike⟩
  | @used q op p p' answer there unfired done sane =>
      have other : q.pipe ≠ k := fun same => apart (congrArg some same)
      exact ⟨_, .used ((alike.pipes _ other).trans there)
        ((stream_eq allowed apart).trans unfired) done sane, alike.setPipe _ _⟩
  | @broken q p payload there unfired ended =>
      have other : q.pipe ≠ k := fun same => apart (congrArg some same)
      exact ⟨_, .broken payload ((alike.pipes _ other).trans there)
        ((stream_eq allowed apart).trans unfired) ended, alike.fire _⟩
  | closedStream q => exact ⟨_, .closedStream q, alike.fire _⟩
  | dropped x => exact ⟨_, .dropped x, alike⟩
  | released => exact ⟨_, .released, alike.release stocked stocked'⟩

namespace Apart

variable {s s' : State}

theorem allows_eq (h : Apart k s s') (apart : a.pipe? ≠ some k) : s'.allows a = s.allows a := by
  cases a with
  | openStream | accept | send | receive | close | leave =>
      simp only [State.allows, h.history, sockets_without]
  | use | closeStream | drop =>
      simp only [State.allows, h.history, mem_streams_without apart]
  | pairSockets | pairStreams | release => rfl

theorem own (h : Apart k s s') (stocked : Stocked s.network s.history) (on : a.pipe? = some k) :
    Apart k (s.act a) s' := by
  obtain same | ⟨e, n₁, -, effect, same⟩ := stocked.act_cases a
  · rwa [same]
  · rw [same]
    refine ⟨h.alike.own effect on, ?_⟩
    rw [h.history, without_concat_own (effect.pipe?_eq.trans on)]

theorem other (h : Apart k s s') (stocked : Stocked s.network s.history)
    (stocked' : Stocked s'.network s'.history) (signaled : Signaled s.network s.history)
    (signaled' : Signaled s'.network s'.history) (apart : a.pipe? ≠ some k) :
    Apart k (s.act a) (s'.act a) := by
  obtain ⟨n', l'⟩ := s'
  obtain ⟨alike, rfl⟩ := h
  have allows := Apart.allows_eq ⟨alike, rfl⟩ apart
  cases allowed : s.allows a with
  | false =>
      rw [State.act, State.act, allows, allowed]
      exact ⟨alike, rfl⟩
  | true =>
      have effect := a.effect (roots s.history) (stocked.finds allowed)
      obtain ⟨n₁', effect', alike'⟩ :=
        alike.transfer stocked stocked' signaled signaled' allowed apart effect
      rw [State.act, State.act, allows, allowed, if_pos rfl, if_pos rfl, effect'.perform_eq]
      exact ⟨alike', (without_concat_other (effect.pipe?_eq ▸ apart)).symm⟩

end Apart

/-- A run without what is done with one stream. -/
theorem apart_run (k : Nat) (acts : List Act) :
    Apart k (start.run acts) (start.run (acts.filter fun a => a.pipe? ≠ some k)) := by
  induction acts using List.reverseRecOn with
  | nil => exact ⟨⟨rfl, rfl, rfl, fun _ _ => rfl⟩, rfl⟩
  | append_singleton acts a ih =>
      rw [State.run_concat, List.filter_append]
      by_cases on : a.pipe? = some k
      · rw [List.filter_cons_of_neg (by simpa using on), List.filter_nil, List.append_nil]
        exact ih.own (stocked_run acts) on
      · rw [List.filter_cons_of_pos (by simpa using on), List.filter_nil, State.run_concat]
        exact ih.other (stocked_run _) (stocked_run _) (signaled_run _) (signaled_run _) on

/-- Both ends of a session are closed when one of them was closed, and both ends of a stream when
its session was, or one of them was or has failed to read or to write. What is done with one stream
changes nothing on its session and on other streams: without it, all else comes to the same. -/
theorem closing_is_isolated (acts : List Act) :
    let s := start.run acts
    (∀ i < s.network.sessions.length, ∀ h,
      s.network.isClosed (.session i h) = wasClosed i s.history) ∧
      (∀ b ∈ births s.history,
        (s.network.isFired b.2.signal = true ↔
          (∃ i, b.1 = some i ∧ wasClosed i s.history = true) ∨
            wasHurt b.2.pipe s.history = true) ∧
          ∀ x, Has s.network s.history x → x.pipe? = some b.2.pipe →
            s.network.isFired x.signal = s.network.isFired b.2.signal) ∧
      ∀ k, let s' := start.run (acts.filter fun a => a.pipe? ≠ some k)
        s'.history = without k s.history ∧ s'.network.sessions = s.network.sessions ∧
          (∀ i h, s'.network.isClosed (.session i h) = s.network.isClosed (.session i h)) ∧
          (∀ j ≠ k, s'.network.pipes[j]? = s.network.pipes[j]?) ∧
          ∀ b ∈ births s.history, b.2.pipe ≠ k →
            s'.network.isFired b.2.signal = s.network.isFired b.2.signal := by
  intro s
  have stocked := stocked_run acts
  have signaled := signaled_run acts
  refine ⟨fun i => isClosed_session signaled, fun b hb => ⟨signaled.ended b hb, ?_⟩, fun k => ?_⟩
  · intro x has place
    obtain ⟨q, rfl⟩ := (stocked.known_of_has has).piped
    obtain ⟨b', hb', place', signal⟩ := (stocked.known_of_has has).birth
    have same : b = b' := stocked.birth_unique hb hb' (place'.trans (Option.some.inj place)).symm
    rw [same, signal]
    rfl
  · intro s'
    have signaled' : Signaled s'.network s'.history := signaled_run _
    obtain ⟨alike, history⟩ := apart_run k acts
    have history : s'.history = without k s.history := history
    rw [history] at signaled'
    refine ⟨history, alike.sessions, fun i h => ?_, alike.pipes, fun b hb other => ?_⟩
    · change ((s'.network.sessionSignal? i).map _).getD true =
        ((s.network.sessionSignal? i).map s.network.isFired).getD true
      rw [alike.sessionSignal?]
      cases there : s.network.sessionSignal? i with
      | none => rfl
      | some t => exact isFired_session_alike alike signaled signaled' there
    · exact isFired_stream_alike signaled signaled' ⟨b, hb, .inl rfl⟩ other

end

end Paired

end TransportStack
