import TransportStack.Proofs.Redial.Dialing
import TransportStack.Proofs.Shutdown.Causes

/-!
Listening, accepting, closing and releasing leave everything in order too, and so do the tasks of
demultiplexed listeners. What a listener or a session hands out was kept for it by the network, so
that it can never be dialed again.
-/

namespace TransportStack.Redial

open Network
open Scenario (ByteOp)

/-- A step after which all is in order if it was before. -/
structure Orderly (n n' : Network) : Prop where
  retains : n.Retains n'
  oneWay : n.OneWay → n'.OneWay

/-- What a call yields, if it does not fail or have to wait. -/
def Yields {α : Type} (good : Network → α → Prop) (r : Poll TransportError α) (n : Network) :
    Prop :=
  ∀ a, r = .done (.ok a) → good n a

section

variable {α : Type} {good : Network → α → Prop} (n : Network)

theorem yields_failed (e : TransportError) : Yields good (.failed e) n := by
  rintro _ ⟨⟩

theorem yields_pending : Yields good .pending n := by
  rintro _ ⟨⟩

theorem yields_of_waiting (closed : Bool) :
    Yields good (if closed then .failed .closed else .pending) n := by
  cases closed with
  | true => exact yields_failed n .closed
  | false => exact yields_pending n

end

theorem flagged_of_isFinal {s : Stream} (final : s.IsFinal) (n : Network) :
    FlaggedStream false n s := by
  refine ⟨?_, final⟩
  cases s with
  | single inner signal socket? =>
      cases socket? with
      | none => trivial
      | some i => cases final
  | piped | recorded => trivial

theorem flagged_of_isServed {s : Socket} (served : s.IsServed) (n : Network) :
    FlaggedSocket false n s := by
  cases s with
  | session i side =>
      cases side with
      | first => exact absurd served id
      | second => exact ⟨trivial, rfl⟩
  | accepted => exact ⟨trivial, rfl⟩
  | dialed | recorded => exact absurd served id

theorem dials_of_isServed {s : Socket} (served : s.IsServed) : s.dials = false := by
  cases s with
  | dialed => exact absurd served id
  | session | accepted | recorded => rfl

namespace Orderly

variable {n n₁ n' : Network}

theorem refl (n : Network) : Orderly n n := ⟨.refl n, id⟩

theorem trans (h : Orderly n n₁) (h' : Orderly n₁ n') : Orderly n n' :=
  ⟨h.retains.trans h'.retains, fun oneWay => h'.oneWay (h.oneWay oneWay)⟩

theorem fire (n : Network) (s : Signal) : Orderly n (n.fire s) :=
  ⟨.of_same rfl rfl rfl, fun h => { h with }⟩

theorem closeStream (s : Stream) (n : Network) : Orderly n (Network.closeStream s n) := by
  induction s generalizing n with
  | piped s => exact fire n s.signal
  | single inner signal socket? ih => exact (fire n signal).trans (ih (n.fire signal))
  | recorded remote number signal => exact fire n signal

theorem closeSocket (s : Socket) (n : Network) : Orderly n (Network.closeSocket s n) := by
  cases s with
  | session i side =>
      rw [Network.closeSocket]
      cases n.sessions[i]? with
      | none => exact refl n
      | some s => exact fire n s.signal
  | dialed i =>
      rw [Network.closeSocket]
      cases n.dialed[i]? with
      | none => exact refl n
      | some s => exact fire n s.signal
  | accepted i =>
      rw [Network.closeSocket]
      cases n.accepted[i]? with
      | none => exact refl n
      | some s =>
          have taken : Orderly n { n.fire s.signal with
              accepted := n.accepted.set i { s with stream? := none } } :=
            ⟨.of_same rfl rfl rfl, fun h => { h with }⟩
          simp only
          cases s.stream? with
          | none => exact taken
          | some x => exact taken.trans (closeStream x _)
  | recorded i =>
      rw [Network.closeSocket]
      cases n.recorded[i]? with
      | none => exact refl n
      | some s => exact fire n s.signal

mutual

theorem closeStreamListener (l : StreamListener) (n : Network) :
    Orderly n (Network.closeStreamListener l n) :=
  match l with
  | .memory i => by
      rw [Network.closeStreamListener]
      cases n.streams.bindings[i]? with
      | none => exact ⟨.of_same rfl rfl rfl, fun h => { h with streams := h.streams.unbind i }⟩
      | some b => exact ⟨.of_same rfl rfl rfl, fun h => { h with streams := h.streams.unbind i }⟩
  | .gathered _ shutdown inner => (fire n shutdown).trans (closeMuxListener inner (n.fire shutdown))
  | .idle signal => fire n signal

theorem closeMuxListener (l : MuxListener) (n : Network) :
    Orderly n (Network.closeMuxListener l n) :=
  match l with
  | .memory i => by
      rw [Network.closeMuxListener]
      cases n.sockets.bindings[i]? with
      | none => exact ⟨.of_same rfl rfl rfl, fun h => { h with sockets := h.sockets.unbind i }⟩
      | some b => exact ⟨.of_same rfl rfl rfl, fun h => { h with sockets := h.sockets.unbind i }⟩
  | .single inner => closeStreamListener inner n
  | .idle signal => fire n signal

end

/-- An operation on a stream that is tied to a signal. -/
theorem guarded {signal : Signal} {b : ByteStream Network} {op : ByteOp}
    (inside : Orderly n (op.perform b n).2) :
    Orderly n (op.perform (b.guarded (guard signal)) n).2 := by
  obtain same | same | same := perform_guarded signal b op n
  · rw [same]
    exact refl n
  · rw [same]
    exact inside
  · rw [same]
    exact inside.trans (fire _ signal)

theorem perform (s : Stream) (op : ByteOp) (n : Network) :
    Orderly n (op.perform (bytes s) n).2 := by
  induction s with
  | piped s =>
      refine .guarded ?_
      cases op <;> exact ⟨.of_same rfl rfl rfl, fun h => { h with }⟩
  | single inner signal socket? ih => exact .guarded ih
  | recorded remote number signal =>
      refine .guarded ?_
      cases op <;> exact refl n

theorem linkStep (step : n.linkStep? = some n') : Orderly n n' := by
  simp only [linkStep?, Option.bind_eq_bind, Option.bind_eq_some_iff] at step
  obtain ⟨link, -, fired⟩ := step
  cases fired
  exact fire n link.1

theorem releaseOne (n : Network) (x : Holding) : Orderly n (n.releaseOne x) := by
  cases x with
  | pipeHalf i side => exact ⟨.of_same rfl rfl rfl, fun h => { h with }⟩
  | single s => exact fire n s
  | sessionHalf i side =>
      refine ⟨.of_same rfl (List.ext_getElem? fun j => ?_) rfl,
        fun h => { h with sessions := fun s hs => ?_ }⟩
      · rw [origins, origins, List.getElem?_map, List.getElem?_map, Network.releaseOne,
          map_getElem?_modify]
        exact fun _ => rfl
      · obtain ⟨s', hs', rfl | rfl⟩ := mem_modify hs
        · exact h.sessions s hs'
        · refine (h.sessions s' hs').of_subset fun side' => ?_
          cases side <;> cases side' <;> exact List.Subset.refl _
  | streamBinding i =>
      exact ⟨.of_same rfl rfl rfl, fun h => { h with streams := h.streams.drop i }⟩
  | socketBinding i =>
      exact ⟨.of_same rfl rfl rfl, fun h => { h with sockets := h.sockets.drop i }⟩
  | demuxer i =>
      rw [Network.releaseOne]
      cases n.demuxers[i]? with
      | none => exact refl n
      | some d => exact fire n d.shutdown
  | dialed | accepted | rotation => exact refl n

theorem release {roots : List Holding} (step : n.release? roots = some n') : Orderly n n' := by
  obtain ⟨loose, -, -, rfl⟩ := release?_eq_some step
  clear step
  induction loose generalizing n with
  | nil => exact refl n
  | cons x xs ih => exact (releaseOne n x).trans ih

theorem clearListeners (n : Network) : Orderly n n.clearListeners :=
  ⟨.of_same rfl rfl rfl, fun h => { h with streams := h.streams.clear, sockets := h.sockets.clear }⟩

theorem newProducer (n : Network) (side : Side) (r : Recipe Implementation) :
    Orderly n (n.newProducer side r).2 := by
  refine ⟨⟨List.prefix_rfl, List.prefix_rfl, ?_⟩, fun h => { h with }⟩
  rw [Network.newProducer, List.length_append]
  exact Nat.le_add_right _ _

end Orderly

/-- The sessions of a pair were not dialed. -/
theorem keeps_newSession {n : Network} (h : n.OneWay) (capacity : Nat)
    (dialing accepting : Address) :
    Ends n (n.newSession capacity dialing accepting none) fun i n =>
      FlaggedSocket false n (.session i .first) := by
  let n' := (n.newSession capacity dialing accepting none).2
  obtain ⟨retains, there⟩ :
      n.Retains n' ∧ n'.origins[n.sessions.length]? = some (none, n.nextSignal []) :=
    Retains.of_newSession (s := .start capacity (n.nextSignal []) dialing accepting none) rfl rfl rfl
  exact ⟨retains, { h.withNewSession capacity (n.nextSignal []) dialing accepting none with },
    flagged_session there⟩

section

variable {n : Network}

/-- Another queue and other tasks of a demultiplexed listener. -/
theorem oneWay_withFan (h : n.OneWay) (i : Nat) {fan : FanIn Socket Stream}
    (carries : fan.Carries Socket.IsServed Stream.IsFinal) :
    { n with demuxers := n.demuxers.modify i fun d => { d with fan := fan } }.OneWay := by
  refine { h with demuxers := fun d hd => ?_ }
  obtain ⟨d', hd', rfl | rfl⟩ := mem_modify hd
  · exact h.demuxers d hd'
  · exact carries

variable (h : n.OneWay)

include h

theorem keeps_acceptStream (s : Socket) :
    Ends n (acceptStream s n) (Yields (FlaggedStream s.dials)) := by
  cases s with
  | session i side =>
      rw [acceptStream]
      cases hs : n.sessions[i]? with
      | none => exact ⟨.refl n, h, yields_failed n .closed⟩
      | some s =>
          obtain ⟨r, same, nothing⟩ | ⟨x, rest, waiting, taken⟩ :=
            s.receive_cases n.signals side (s.halves.get side).incoming fun rest =>
              s.modify side fun a => { a with incoming := rest }
          · simp only [Session.acceptStream, same]
            exact ⟨.of_same rfl (origins_set hs rfl rfl) rfl,
              { h.withSession (h.sessions s (List.mem_of_getElem? hs)) with },
              fun x hx => absurd hx (nothing x)⟩
          · simp only [Session.acceptStream, taken]
            have carries := h.sessions s (List.mem_of_getElem? hs)
            refine ⟨.of_same rfl (origins_set hs ?_ rfl) rfl,
              { h.withSession (carries.of_subset ?_) with }, ?_⟩
            · cases side <;> rfl
            · intro side'
              cases side <;> cases side' <;> simp_all [Session.modify, Halves.modify, Halves.get]
            · rintro _ ⟨⟩
              refine flagged_of_isFinal (carries side x ?_) _
              rw [waiting]
              exact List.mem_cons_self
  | recorded i => exact ⟨.refl n, h, yields_of_waiting n _⟩
  | dialed i => exact (keeps_openStream (.dialed i) h).weaken fun _ _ ended => ended.ready
  | accepted i => exact (keeps_openStream (.accepted i) h).weaken fun _ _ ended => ended.ready

theorem keeps_acceptOnStreamListener (l : StreamListener) :
    Ends n (acceptOnStreamListener l n) (Yields fun _ s => s.IsFinal) := by
  cases l with
  | memory i =>
      obtain ⟨carries, ready⟩ := h.streams.accept n.signals i
      exact ⟨.of_same rfl rfl rfl, { h with streams := carries }, ready⟩
  | gathered i shutdown inner =>
      rw [acceptOnStreamListener]
      cases hd : n.demuxers[i]? with
      | none => exact ⟨.refl n, h, yields_failed n .closed⟩
      | some d =>
          have carries := h.demuxers d (List.mem_of_getElem? hd)
          have kept {fan : FanIn Socket Stream}
              (carries : fan.Carries Socket.IsServed Stream.IsFinal) :
              { n with demuxers := n.demuxers.set i { d with fan := fan } }.OneWay := by
            refine { h with demuxers := fun e he => ?_ }
            obtain old | rfl := List.mem_or_eq_of_mem_set he
            · exact h.demuxers e old
            · exact carries
          obtain ⟨-, same⟩ | ⟨-, -, same⟩ | ⟨-, x, fan, taken, same⟩ :=
            d.fan.accept_cases (supply (fun n => (.pending, n)) shutdown) n
          all_goals simp only [same]
          · exact ⟨.of_same rfl rfl rfl, kept carries, yields_failed _ .closed⟩
          · exact ⟨.of_same rfl rfl rfl, kept carries, yields_pending _⟩
          · obtain ⟨rest, final⟩ := carries.take? taken
            refine ⟨.of_same rfl rfl rfl, kept rest, ?_⟩
            rintro _ ⟨⟩
            exact final
  | idle signal => exact ⟨.refl n, h, yields_of_waiting n _⟩

theorem keeps_acceptOnMuxListener (l : MuxListener) :
    Ends n (acceptOnMuxListener l n) (Yields fun _ s => s.IsServed) := by
  cases l with
  | memory i =>
      obtain ⟨carries, ready⟩ := h.sockets.accept n.signals i
      exact ⟨.of_same rfl rfl rfl, { h with sockets := carries }, ready⟩
  | single inner =>
      obtain ⟨retains, h₁, -⟩ := keeps_acceptOnStreamListener h inner
      rw [acceptOnMuxListener]
      rcases hr : acceptOnStreamListener inner n with ⟨_ | _ | s, n₁⟩
      all_goals rw [hr] at retains h₁
      · exact ⟨retains, h₁, yields_pending n₁⟩
      · exact ⟨retains, h₁, yields_failed n₁ _⟩
      · refine ⟨retains.trans (.of_same rfl rfl rfl), { h₁ with }, ?_⟩
        rintro _ ⟨⟩
        trivial
  | idle signal => exact ⟨.refl n, h, yields_of_waiting n _⟩

theorem keeps_receiveDatagram (s : Socket) :
    Ends n (receiveDatagram s n) fun _ _ => True := by
  cases s with
  | session i side =>
      rw [receiveDatagram]
      cases hs : n.sessions[i]? with
      | none => exact ⟨.refl n, h, trivial⟩
      | some s =>
          have carries := h.sessions s (List.mem_of_getElem? hs)
          obtain ⟨r, same, -⟩ | ⟨bytes, rest, -, taken⟩ :=
            s.receive_cases n.signals side (s.halves.get side).datagrams fun rest =>
              s.modify side fun a => { a with datagrams := rest }
          · simp only [Session.receiveDatagram, same]
            exact ⟨.of_same rfl (origins_set hs rfl rfl) rfl, { h.withSession carries with },
              trivial⟩
          · simp only [Session.receiveDatagram, taken]
            refine ⟨.of_same rfl (origins_set hs ?_ rfl) rfl,
              { h.withSession (carries.of_subset ?_) with }, trivial⟩
            · cases side <;> rfl
            · intro side'
              cases side <;> cases side' <;> exact List.Subset.refl _
  | dialed | accepted | recorded => exact ⟨.refl n, h, trivial⟩

omit h in
theorem keeps_sendDatagram (s : Socket) (payload : List UInt8) :
    Keeps (sendDatagram s payload) fun _ _ => True := by
  intro n h
  cases s with
  | session i side =>
      rw [sendDatagram]
      refine .of_get ?_
      cases hs : n.sessions[i]? with
      | none => exact .of_closed h
      | some s =>
          simp only [Session.sendDatagram]
          cases closed : n.signals.isFired s.signal || s.isDeserted side with
          | true => exact .of_closed h
          | false =>
              have carries := h.sessions s (List.mem_of_getElem? hs)
              refine .of_ok (.of_same rfl (origins_set hs ?_ ?_) rfl)
                { h.withSession (carries.of_subset ?_) with } trivial
              · cases side <;> rfl
              · cases side <;> rfl
              · intro side'
                cases side <;> cases side' <;> exact List.Subset.refl _
  | dialed | accepted | recorded => exact .of_misfit h

end

theorem keeps_gather (capacity : Nat) (l : MuxListener) :
    Keeps (gather capacity l) fun _ _ => True := by
  intro n h
  rw [gather]
  refine .of_get ?_
  cases l.signal? n with
  | none => exact .of_closed h
  | some parent =>
      refine .of_ok (.of_same rfl rfl rfl) { h with demuxers := fun d hd => ?_ } trivial
      obtain old | new := List.mem_append.1 hd
      · exact h.demuxers d old
      · rw [List.mem_singleton.1 new]
        exact .start capacity

theorem keeps_listen_bound (b : Board) (c : Category) (address : String) (q : Parameters) :
    Keeps (Network.listen (.bound c b.implementation address q)) fun n x => x.Flagged false n := by
  intro n h
  cases occupied : (n.exchange b).table.contains address with
  | true =>
      rw [listen_occupied c q occupied]
      have moved : n.Retains n.withSignal := .of_same rfl rfl rfl
      exact .after moved (.of_error { h with } nofun)
  | false =>
      rw [listen_vacant c q occupied]
      cases b with
      | streams =>
          exact .of_ok (.of_same rfl rfl rfl)
            { h with streams := h.streams.listening address (n.nextSignal []) } ⟨trivial, rfl⟩
      | sockets =>
          exact .of_ok (.of_same rfl rfl rfl)
            { h with sockets := h.sockets.listening address (n.nextSignal []) } ⟨trivial, rfl⟩

/-- What recorded implementations listen at is new, or what they were given. -/
theorem keeps_recordedListen (c : Category) {input : Option Product} {n : Network} (h : n.OneWay)
    (given : ∀ x ∈ input, x.Flagged false n) :
    Ends n (recordedListen c input n) (OnOk fun n x => x.Flagged false n) := by
  have packet : Ends n ((Product.packet <$> newPacketSocket : Net Product) n)
      (OnOk fun n x => x.Flagged false n) :=
    .of_ok (.of_same rfl rfl rfl) { h with } ⟨trivial, rfl⟩
  have muxed : Ends n ((return .muxListener (.idle (← modifyGet newRoot)) : Net Product) n)
      (OnOk fun n x => x.Flagged false n) :=
    .of_ok (.of_same rfl rfl rfl) { h with } ⟨trivial, rfl⟩
  have listener : Ends n (recordedListen.newListener n) (OnOk fun n x => x.Flagged false n) :=
    .of_ok (.of_same rfl rfl rfl) { h with } ⟨trivial, rfl⟩
  have passed {x : Product} (hx : x ∈ input) :
      Ends n ((pure x : Net Product) n) (OnOk fun n x => x.Flagged false n) :=
    .of_ok (.refl n) h (given x hx)
  unfold recordedListen
  cases input with
  | none => cases c <;> first | exact packet | exact muxed | exact listener
  | some x =>
      have passed := passed rfl
      cases c <;> first | exact packet | exact muxed | exact listener | exact passed

theorem keeps_listen (q : Producer) : Keeps (Network.listen q) fun n x => x.Flagged false n := by
  induction q using Network.listen.induct with
  | case1 c address p => exact keeps_systemSocket address _
  | case2 c address p => exact keeps_systemSocket address _
  | case3 c address p => exact keeps_listen_bound .streams c address p
  | case4 c address p => exact keeps_listen_bound .sockets c address p
  | case5 c address p name =>
      intro n h
      exact (keeps_rehearse name c .listen n h).bind fun _ _ _ h _ =>
        keeps_recordedListen c h fun x hx => absurd hx (Option.not_mem_none x)
  | case6 c address p => exact fun n h => .of_misfit h
  | case7 c p input ih =>
      intro n h
      rw [Network.listen]
      refine (ih n h).bind fun x n _ h _ => ?_
      cases x with
      | streamListener l => exact .of_ok (.refl n) h ⟨trivial, rfl⟩
      | packet _ | stream _ | muxed _ | muxListener _ => exact .of_misfit h
  | case8 c p input name ih =>
      intro n h
      rw [Network.listen]
      refine (keeps_rehearse name c .listen n h).bind fun _ n _ h _ => ?_
      refine (ih n h).bind fun x _ _ h flagged => keeps_recordedListen c h ?_
      rintro _ ⟨⟩
      exact flagged
  | case9 c i p input plain unnamed =>
      intro n h
      rw [Network.listen]
      · exact .of_misfit h
      · exact plain
      · exact unnamed
  | case10 capacity input ih =>
      intro n h
      rw [Network.listen]
      refine (ih n h).bind fun x n _ h _ => ?_
      cases x with
      | muxListener l => exact (keeps_gather capacity l n h).map fun _ _ _ => ⟨trivial, rfl⟩
      | packet _ | stream _ | muxed _ | streamListener _ => exact .of_misfit h
  | case11 cell input => exact fun n h => .of_misfit h

section

variable {n n' : Network} (h : n.OneWay)

include h

theorem keeps_supply (d : Demuxer) (fault? : Option TransportError) :
    Ends n ((d.supply fault?).acceptConnection n) (Yields fun _ s => s.IsServed) ∧
      ∀ c : Socket, c.IsServed →
        Ends n ((d.supply fault?).acceptStream c n) (Yields fun _ s => s.IsFinal) := by
  cases fault? with
  | none =>
      refine ⟨keeps_acceptOnMuxListener h d.listener, fun c served => ?_⟩
      refine (keeps_acceptStream h c).weaken fun _ _ ready s hs => ?_
      exact (ready s hs).flag.trans (dials_of_isServed served)
  | some e => exact ⟨⟨.refl n, h, yields_failed n e⟩, fun _ _ => ⟨.refl n, h, yields_failed n e⟩⟩

/-- A step of a task: an operation on the network, after which its queue and tasks are updated. -/
theorem ends_taskStepWith? {i : Nat} {worker? : Option Nat} {fault? : Option TransportError}
    (step : n.taskStepWith? i worker? fault? = some n') : n.Retains n' ∧ n'.OneWay := by
  have updated {fan : FanIn Socket Stream} {n₁ : Network} (retains : n.Retains n₁)
      (h₁ : n₁.OneWay) (carries : fan.Carries Socket.IsServed Stream.IsFinal) :
      n.Retains { n₁ with demuxers := n₁.demuxers.modify i fun d => { d with fan := fan } } ∧
        { n₁ with demuxers := n₁.demuxers.modify i fun d => { d with fan := fan } }.OneWay :=
    ⟨retains.trans (.of_same rfl rfl rfl), oneWay_withFan h₁ i carries⟩
  cases worker? with
  | none =>
      simp only [taskStepWith?, Option.bind_eq_bind, Option.bind_eq_some_iff] at step
      obtain ⟨d, hd, ⟨fan, n₁⟩, step, same⟩ := step
      cases same
      have carries := h.demuxers d (List.mem_of_getElem? hd)
      have accepts := (keeps_supply h d fault?).1
      obtain ⟨-, ⟨-, rfl, rfl⟩ | ⟨-, ⟨c, found, rfl⟩ | ⟨e, n₂, failed, rfl, rfl⟩⟩⟩ :=
        FanIn.acceptorStep?_cases step
      · exact updated (.refl _) h carries.stopAccepting
      · obtain ⟨retains, h₁, ready⟩ := accepts
        rw [found] at retains h₁ ready
        exact updated retains h₁ (carries.assign (ready c rfl))
      · obtain ⟨retains, h₂, -⟩ := accepts
        rw [failed] at retains h₂
        have shut : (d.supply fault?).shut n₂ = n₂.fire d.shutdown := by cases fault? <;> rfl
        have fired := Orderly.fire n₂ d.shutdown
        rw [shut]
        exact updated (retains.trans fired.retains) (fired.oneWay h₂) carries.stopAccepting
  | some k =>
      simp only [taskStepWith?, Option.bind_eq_bind, Option.bind_eq_some_iff] at step
      obtain ⟨d, hd, c, hc, ⟨fan, n₁⟩, step, same⟩ := step
      cases same
      have carries := h.demuxers d (List.mem_of_getElem? hd)
      have accepts := (keeps_supply h d fault?).2 c (carries.connection hc)
      obtain ⟨-, rfl, rfl⟩ | ⟨-, -, ⟨s, accepted, rfl⟩ | ⟨e, n₂, failed, rfl, rfl⟩⟩ :=
        FanIn.workerStep?_cases step
      · exact updated (.refl _) h (carries.leave k)
      · obtain ⟨retains, h₁, ready⟩ := accepts
        rw [accepted] at retains h₁ ready
        exact updated retains h₁ (carries.offer k (ready s rfl))
      · obtain ⟨retains, h₂, -⟩ := accepts
        rw [failed] at retains h₂
        have close : (d.supply fault?).close c n₂ = closeSocket c n₂ := by cases fault? <;> rfl
        have closed := Orderly.closeSocket c n₂
        split
        · exact updated retains h₂ (carries.leave k)
        · rw [close]
          exact updated (retains.trans closed.retains) (closed.oneWay h₂) (carries.leave k)

/-- What a worker accepts cannot be dialed again. -/
theorem ends_receive? {i k : Nat} {s : Stream} (received : n.receive? i k = some (s, n')) :
    n.Retains n' ∧ n'.OneWay ∧ s.IsFinal := by
  obtain ⟨d, c, hd, hc, -, accepted⟩ := receive?_eq_some received
  have served := (h.demuxers d (List.mem_of_getElem? hd)).connection hc
  obtain ⟨retains, h', ready⟩ := keeps_acceptStream h c
  rw [accepted] at retains h' ready
  exact ⟨retains, h', (ready s rfl).flag.trans (dials_of_isServed served)⟩

theorem ends_offer (i k : Nat) {s : Stream} (final : s.IsFinal) :
    n.Retains (n.offer i k s) ∧ (n.offer i k s).OneWay := by
  refine ⟨.of_same rfl rfl rfl, { h with demuxers := fun d hd => ?_ }⟩
  obtain ⟨d', hd', rfl | rfl⟩ := mem_modify hd
  · exact h.demuxers d hd'
  · exact (h.demuxers d' hd').offer k final

end

end TransportStack.Redial
