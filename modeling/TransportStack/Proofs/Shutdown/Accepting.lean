import TransportStack.Proofs.Shutdown.Making

/-!
Listening and accepting fire no signal either. What a listener hands out was kept for it by the
network and fits, and a demultiplexed listener gets a shutdown signal of its own.
-/

namespace TransportStack

/-- Receiving on a session yields the first of what waits, or leaves the session as it is. -/
theorem Session.receive_cases {τ α : Type} (s : Session τ) (g : Signals) (side : Half)
    (waiting : List α) (keep : List α → Session τ) :
    (∃ r, s.receive g side waiting keep = (r, s) ∧ ∀ a, r ≠ .done (.ok a)) ∨
      ∃ a rest, waiting = a :: rest ∧ s.receive g side waiting keep = (.ready a, keep rest) := by
  cases fired : g.isFired s.signal with
  | true => exact .inl ⟨.failed .closed, by simp [receive, fired], nofun⟩
  | false =>
      cases waiting with
      | nil =>
          refine .inl ⟨if s.isDeserted side then .failed .closed else .pending,
            by simp [receive, fired], ?_⟩
          split <;> exact nofun
      | cons a rest => exact .inr ⟨a, rest, rfl, by simp [receive, fired]⟩

namespace Network

variable {ρ : List Role} {P : Signal → Prop} {n : Network}

section

variable (h : n.Fits ρ)

include h

theorem Fits.withSession {i : Nat} {s s' : Session Stream} (hs : n.sessions[i]? = some s)
    (signal : s'.signal = s.signal)
    (fewer : ∀ side, (s'.halves.get side).incoming ⊆ (s.halves.get side).incoming) :
    { n with sessions := n.sessions.set i s' }.Fits ρ := by
  refine { h with session := fun t ht => ?_ }
  obtain old | rfl := List.mem_or_eq_of_mem_set ht
  · exact h.session t old
  · obtain ⟨plain, waiting⟩ := h.session s (List.mem_of_getElem? hs)
    rw [signal]
    exact ⟨plain, fun side x hx => waiting side x (fewer side hx)⟩

end

/-- The network with another queue and other tasks of a demultiplexed listener. -/
def withFan (n : Network) (i : Nat) (d : Demuxer) (fan : FanIn Socket Stream) : Network :=
  { n with demuxers := n.demuxers.set i { d with fan := fan } }

section

variable {i : Nat} {d : Demuxer} (hd : n.demuxers[i]? = some d) {fan : FanIn Socket Stream}

include hd

theorem outline_withFan : (n.withFan i d fan).outline = n.outline := by
  obtain ⟨within, rfl⟩ := List.getElem?_eq_some_iff.1 hd
  refine List.ext_getElem? fun j => ?_
  simp only [outline, withFan, List.getElem?_map, List.getElem?_set]
  by_cases here : i = j
  · subst here
    simp [within]
  · simp [here]

theorem Fits.withFan (h : n.Fits ρ) (line : ∀ x ∈ fan.line, x.Fits ρ) :
    (n.withFan i d fan).Fits ρ := by
  refine { h with outline := ?_, line := fun e he => ?_ }
  · rw [outline_withFan hd]
    exact h.outline
  · obtain old | rfl := List.mem_or_eq_of_mem_set he
    · exact h.line e old
    · exact line

/-- A fan that takes the place of another one with the same tasks, before the shutdown signal has
fired. -/
theorem Proceeds.withFan (workers : fan.workers = d.fan.workers)
    (accepting : fan.accepting = d.fan.accepting) (parked : fan.parked ⊆ d.fan.parked)
    (shut : n.isFired d.shutdown = true → fan = d.fan) :
    n.Proceeds P (n.withFan i d fan) where
  listeners := ⟨fun _ _ hs => hs, fun _ _ hs => hs⟩
  fired _ hf := hf
  causes _ hf := .inl hf
  demuxers j e he := by
    by_cases here : i = j
    · subst here
      cases hd.symm.trans he
      exact ⟨fan, List.getElem?_set_self (List.getElem?_eq_some_iff.1 hd).1, workers, accepting,
        parked, shut⟩
    · exact ⟨e.fan, (List.getElem?_set_ne here).trans he, rfl, rfl, List.Subset.refl _,
        fun _ => rfl⟩
  gathered j e he := by
    have within := (List.getElem?_eq_some_iff.1 he).1
    rw [Network.withFan, List.length_set] at within
    exact .inl within

end

theorem keeps_acceptStream (s : Socket) (h : n.Fits ρ) :
    Ends P ρ n (acceptStream s n) (OnReady FittingStream) := by
  cases s with
  | session i side =>
      rw [acceptStream]
      cases hs : n.sessions[i]? with
      | none => exact .of_failed h
      | some s =>
          obtain ⟨r, same, nothing⟩ | ⟨x, rest, waiting, taken⟩ :=
            s.receive_cases n.signals side (s.halves.get side).incoming fun rest =>
              s.modify side fun a => { a with incoming := rest }
          · simp only [Session.acceptStream, same]
            refine ⟨ρ, List.prefix_rfl, .of_same rfl rfl rfl rfl,
              h.withSession hs rfl fun _ => List.Subset.refl _, fun x hx => absurd hx (nothing x)⟩
          · simp only [Session.acceptStream, taken]
            refine ⟨ρ, List.prefix_rfl, .of_same rfl rfl rfl rfl, h.withSession hs rfl ?_, ?_⟩
            · intro side'
              cases side <;> cases side' <;> simp_all [Session.modify, Halves.modify, Halves.get]
            · rintro _ ⟨⟩
              refine (h.session s (List.mem_of_getElem? hs)).2 side x ?_
              rw [waiting]
              exact List.mem_cons_self
  | recorded i =>
      rw [acceptStream]
      exact .of_waiting h _
  | dialed i => exact keeps_openStream (.dialed i) h
  | accepted i => exact keeps_openStream (.accepted i) h

theorem keeps_receiveDatagram (s : Socket) (h : n.Fits ρ) :
    Ends P ρ n (receiveDatagram s n) fun _ _ _ => True := by
  cases s with
  | session i side =>
      rw [receiveDatagram]
      cases hs : n.sessions[i]? with
      | none => exact ⟨ρ, List.prefix_rfl, .refl n, h, trivial⟩
      | some s =>
          obtain ⟨r, same, -⟩ | ⟨bytes, rest, -, taken⟩ :=
            s.receive_cases n.signals side (s.halves.get side).datagrams fun rest =>
              s.modify side fun a => { a with datagrams := rest }
          · simp only [Session.receiveDatagram, same]
            exact ⟨ρ, List.prefix_rfl, .of_same rfl rfl rfl rfl,
              h.withSession hs rfl fun _ => List.Subset.refl _, trivial⟩
          · simp only [Session.receiveDatagram, taken]
            refine ⟨ρ, List.prefix_rfl, .of_same rfl rfl rfl rfl, h.withSession hs rfl ?_, trivial⟩
            intro side'
            cases side <;> cases side' <;> exact List.Subset.refl _
  | dialed | accepted | recorded => exact ⟨ρ, List.prefix_rfl, .refl n, h, trivial⟩

theorem keeps_sendDatagram (s : Socket) (payload : List UInt8) :
    Keeps P (sendDatagram s payload) fun _ _ _ => True := by
  intro ρ n h
  cases s with
  | session i side =>
      rw [sendDatagram]
      refine .of_get ?_
      cases hs : n.sessions[i]? with
      | none => exact .of_error h
      | some s =>
          simp only [Session.sendDatagram]
          cases closed : n.signals.isFired s.signal || s.isDeserted side with
          | true => exact .of_error h
          | false =>
              refine ⟨ρ, List.prefix_rfl, .of_same rfl rfl rfl rfl, h.withSession hs rfl ?_,
                fun _ _ => trivial⟩
              intro side'
              cases side <;> cases side' <;> exact List.Subset.refl _
  | dialed | accepted | recorded => exact .of_error h

theorem keeps_acceptOnStreamListener {l : StreamListener} (h : n.Fits ρ)
    (fits : l.Fits ρ n.outline) :
    Ends P ρ n (acceptOnStreamListener l n) (OnReady FittingStream) := by
  cases l with
  | memory i =>
      rw [acceptOnStreamListener]
      simp only [Exchange.accept]
      cases hb : n.streams.bindings[i]? with
      | none => exact .of_failed h
      | some b =>
          simp only
          cases fired : n.signals.isFired b.signal with
          | true => exact .of_failed h
          | false =>
              obtain ⟨address, inbox, signal, live⟩ := b
              cases inbox with
              | nil => exact .of_pending h
              | cons x rest =>
                  have waiting := (h.streamBinding _ (List.mem_of_getElem? hb)).2
                  have same := n.streams.signal?_modifyInbox i fun _ => rest
                  refine ⟨ρ, List.prefix_rfl, .of_same rfl same rfl rfl,
                    { h with streamBinding := fun b' hb' => ?_ }, ?_⟩
                  · obtain ⟨b, old, signal, inbox⟩ := Exchange.mem_modifyInbox hb'
                    rw [signal]
                    refine ⟨(h.streamBinding b old).1, fun y hy => ?_⟩
                    obtain same | left := inbox
                    · exact (h.streamBinding b old).2 y (same ▸ hy)
                    · exact waiting y (List.mem_cons_of_mem x (left ▸ hy))
                  · rintro _ ⟨⟩
                    exact waiting x List.mem_cons_self
  | gathered i shutdown inner =>
      rw [acceptOnStreamListener]
      cases hd : n.demuxers[i]? with
      | none => exact .of_failed h
      | some d =>
          have own : d.shutdown = shutdown := by
            have known : n.outline[i]? = some (d.shutdown, d.listener) := by
              simp [outline, hd]
            cases known.symm.trans fits.1
            rfl
          subst own
          have line := h.line d (List.mem_of_getElem? hd)
          have unmoved : n.Proceeds P (n.withFan i d d.fan) :=
            .withFan hd rfl rfl (List.Subset.refl _) fun _ => rfl
          have still : (n.withFan i d d.fan).Fits ρ := .withFan hd h line
          obtain ⟨-, same⟩ | ⟨-, -, same⟩ | ⟨unshut, x, fan, taken, same⟩ :=
            d.fan.accept_cases (supply (fun n => (.pending, n)) d.shutdown) n
          all_goals simp only [same]
          · exact .after List.prefix_rfl unmoved (.of_failed still)
          · exact .after List.prefix_rfl unmoved (.of_pending still)
          · obtain ⟨workers, -, -, accepting, parked⟩ := FanIn.workers_of_take? taken
            have shut (fired : n.isFired d.shutdown = true) : fan = d.fan :=
              Bool.noConfusion (unshut.symm.trans fired)
            have whole := FanIn.line_of_take? taken
            refine ⟨ρ, List.prefix_rfl, .withFan hd workers accepting parked.subset shut,
              .withFan hd h ?_, ?_⟩
            · exact fun y hy => line y (by rw [whole]; exact List.mem_cons_of_mem _ hy)
            · rintro _ ⟨⟩
              exact line x (by rw [whole]; exact List.mem_cons_self)
  | idle signal =>
      rw [acceptOnStreamListener]
      exact .of_waiting h _

/-- A connection becomes a socket for its one stream. -/
theorem keeps_present {s : Stream} (h : n.Fits ρ) (fits : s.Fits ρ) :
    Ends P ρ n (present s n) fun _ _ _ => True := by
  have base := h.withSignal .single
  refine ⟨_, List.prefix_append ρ [.single], .of_same rfl rfl rfl rfl,
    { base with accepted := fun t ht => ?_ }, trivial⟩
  obtain old | new := List.mem_append.1 ht
  · exact base.accepted t old
  · rw [List.mem_singleton.1 new]
    refine ⟨h.role_next .single _, ?_⟩
    rintro _ ⟨⟩
    exact ⟨fits.mono (List.prefix_append ..), rfl⟩

theorem keeps_acceptOnMuxListener {l : MuxListener} (h : n.Fits ρ) (fits : l.Fits ρ n.outline) :
    Ends P ρ n (acceptOnMuxListener l n) (OnReady fun _ _ _ => True) := by
  cases l with
  | memory i =>
      rw [acceptOnMuxListener]
      simp only [Exchange.accept]
      cases hb : n.sockets.bindings[i]? with
      | none => exact .of_failed h
      | some b =>
          simp only
          cases fired : n.signals.isFired b.signal with
          | true => exact .of_failed h
          | false =>
              obtain ⟨address, inbox, signal, live⟩ := b
              cases inbox with
              | nil => exact .of_pending h
              | cons x rest =>
                  have same := n.sockets.signal?_modifyInbox i fun _ => rest
                  refine ⟨ρ, List.prefix_rfl, .of_same rfl rfl same rfl,
                    { h with socketBinding := fun b' hb' => ?_ }, fun _ _ => trivial⟩
                  obtain ⟨b, old, signal, -⟩ := Exchange.mem_modifyInbox hb'
                  rw [signal]
                  exact h.socketBinding b old
  | single inner =>
      obtain ⟨ρ', more, proceeds, fits', good⟩ :=
        keeps_acceptOnStreamListener (P := P) (l := inner) h fits
      rw [acceptOnMuxListener]
      rcases hr : acceptOnStreamListener inner n with ⟨_ | _ | s, n'⟩
      all_goals rw [hr] at proceeds fits' good
      · exact .after more proceeds (.of_pending fits')
      · exact .after more proceeds (.of_failed fits')
      · obtain ⟨ρ₁, more₁, proceeds₁, fits₁, -⟩ := keeps_present (P := P) fits' (good s rfl)
        exact ⟨ρ₁, more.trans more₁, proceeds.trans proceeds₁, fits₁, fun _ _ => trivial⟩
  | idle signal =>
      rw [acceptOnMuxListener]
      exact .of_waiting h _

theorem getElem?_concat_eq_some {α : Type} {xs : List α} {a b : α} {i : Nat}
    (h : (xs ++ [a])[i]? = some b) : xs[i]? = some b ∨ i = xs.length ∧ b = a := by
  rw [List.getElem?_append] at h
  split at h
  · exact .inl h
  · rw [List.getElem?_singleton] at h
    split at h
    · exact .inr ⟨by omega, (Option.some.inj h).symm⟩
    · cases h

/-- A demultiplexed listener starts with a shutdown signal that is a child of the signal of the
listener that feeds it. -/
theorem keeps_gather (capacity : Nat) {l : MuxListener} (h : n.Fits ρ) (fits : l.Fits ρ n.outline) :
    Ends P ρ n (gather capacity l n) (OnOk fun l ρ n => l.Fits ρ n.outline) := by
  rw [gather]
  refine .of_get ?_
  cases hp : l.signal? n with
  | none => exact .of_error h
  | some parent =>
      simp only
      have base := h.withSignal (.shutdown n.demuxers.length)
      have more : ρ <+: ρ ++ [.shutdown n.demuxers.length] := List.prefix_append ..
      have longer (o : Signal × MuxListener) : n.outline <+: n.outline ++ [o] :=
        List.prefix_append ..
      let shutdown := n.nextSignal parent.lineage
      let n' : Network := { n.withSignal with
        demuxers := n.demuxers ++ [⟨.start capacity, l, shutdown⟩] }
      have outline : n'.outline = n.outline ++ [(shutdown, l)] := by
        simp [n', Network.outline]
      have proceeds : n.withSignal.Proceeds P n' := {
        listeners := ⟨fun _ _ hs => hs, fun _ _ hs => hs⟩
        fired := fun _ hf => hf
        causes := fun _ hf => .inl hf
        demuxers := fun i d hd => by
          refine ⟨d.fan, ?_, rfl, rfl, List.Subset.refl _, fun _ => rfl⟩
          exact (List.getElem?_append_left (List.getElem?_eq_some_iff.1 hd).1).trans hd
        gathered := fun i d hd => by
          obtain old | ⟨-, rfl⟩ := getElem?_concat_eq_some hd
          · exact .inl (List.getElem?_eq_some_iff.1 old).1
          · have kept : n.KeepsListeners n' := ⟨fun _ _ hs => hs, fun _ _ hs => hs⟩
            exact .inr ⟨rfl, rfl, parent, kept.mux_signal? hp, rfl⟩ }
      have fits' : n'.Fits (ρ ++ [.shutdown n.demuxers.length]) := by
        refine { base with outline := fun i o ho => ?_, line := fun d hd x hx => ?_ }
        · rw [outline] at ho ⊢
          obtain old | ⟨rfl, rfl⟩ := getElem?_concat_eq_some ho
          · obtain ⟨role, inside⟩ := base.outline i o old
            exact ⟨role, inside.mono List.prefix_rfl (longer _)⟩
          · refine ⟨?_, fits.mono more (longer _)⟩
            rw [Network.outline, List.length_map]
            exact h.role_next _ _
        · obtain old | new := List.mem_append.1 hd
          · exact base.line d old x hx
          · rw [List.mem_singleton.1 new] at hx
            exact absurd hx List.not_mem_nil
      refine .of_modifyGet more (.of_same rfl rfl rfl rfl) ?_
      refine .of_modifyGet List.prefix_rfl proceeds (.of_pure fits' ⟨?_, ?_⟩)
      · simp [Network.outline, newChild, Signals.child, Signals.make]
      · exact fits.mono more (outline ▸ longer _)

theorem Fits.listening (h : n.Fits ρ) (b : Board) (address : String) :
    (n.listening b address).Fits (ρ ++ [.listening]) := by
  have base := h.withSignal .listening
  cases b with
  | streams =>
      refine { base with streamBinding := fun b hb => ?_ }
      obtain old | new := List.mem_append.1 hb
      · exact base.streamBinding b old
      · rw [List.mem_singleton.1 new]
        exact ⟨h.role_next .listening _, nofun⟩
  | sockets =>
      refine { base with socketBinding := fun b hb => ?_ }
      obtain old | new := List.mem_append.1 hb
      · exact base.socketBinding b old
      · rw [List.mem_singleton.1 new]
        exact h.role_next .listening _

theorem Proceeds.listening (n : Network) (b : Board) (address : String) :
    n.Proceeds P (n.listening b address) := by
  have kept {τ : Type} (x : Exchange τ) (i : Nat) (s : Signal) (hs : x.signal? i = some s) :
      (x.listening address (n.nextSignal [])).signal? i = some s := by
    have within : i < x.bindings.length := x.signal?_isSome_iff.1 (Option.isSome_of_mem hs)
    rw [Exchange.signal?_listening, if_neg (Nat.ne_of_lt within), hs]
  cases b with
  | streams => exact .of_kept rfl ⟨kept n.streams, fun _ _ hs => hs⟩ rfl
  | sockets => exact .of_kept rfl ⟨fun _ _ hs => hs, kept n.sockets⟩ rfl

theorem keeps_listen_bound (b : Board) (c : Category) (address : String) (q : Parameters) :
    Keeps P (listen (.bound c b.implementation address q)) FittingProduct := by
  intro ρ n h
  cases occupied : (n.exchange b).table.contains address with
  | true =>
      rw [listen_occupied c q occupied]
      exact ⟨_, List.prefix_append ρ [.listening], .of_same rfl rfl rfl rfl,
        h.withSignal .listening, nofun⟩
  | false =>
      rw [listen_vacant c q occupied]
      refine ⟨_, List.prefix_append ρ [.listening], .listening n b address,
        h.listening b address, ?_⟩
      rintro _ ⟨⟩
      cases b <;> trivial

theorem keeps_newRoot {r : Role} :
    Keeps P (modifyGet newRoot) fun s ρ _ => s.HasRole ρ r := by
  intro ρ n h
  refine ⟨_, List.prefix_append ρ [r], .of_same rfl rfl rfl rfl, h.withSignal r, ?_⟩
  rintro _ ⟨⟩
  exact h.role_next r []

/-- What recorded implementations listen at is new, or what they were given. -/
theorem keeps_recordedListen (c : Category) {input : Option Product} {n : Network}
    (h : n.Fits ρ) (fits : ∀ x ∈ input, x.Fits ρ n.outline) :
    Ends P ρ n (recordedListen c input n) (OnOk FittingProduct) := by
  have packet : Ends P ρ n ((Product.packet <$> newPacketSocket : Net Product) n)
      (OnOk FittingProduct) := (keeps_newPacketSocket ρ n h).map fun _ _ _ plain => plain
  have listener : Ends P ρ n (recordedListen.newListener n) (OnOk FittingProduct) :=
    (keeps_newRoot ρ n h).bind fun _ _ _ _ _ h role => .of_pure h role
  have given {x : Product} (hx : x ∈ input) :
      Ends P ρ n ((pure x : Net Product) n) (OnOk FittingProduct) := .of_pure h (fits x hx)
  unfold recordedListen
  cases c.gives with
  | packet =>
      cases input with
      | none => exact packet
      | some x => by_cases obfuscates : c = .packetObfuscator <;> simp [obfuscates, packet, given]
  | muxed => exact (keeps_newRoot ρ n h).bind fun _ _ _ _ _ h role => .of_pure h role
  | stream | address =>
      cases input with
      | none => exact listener
      | some x => by_cases obfuscates : c = .streamObfuscator <;> simp [obfuscates, listener, given]

theorem keeps_listen (p : Producer) : Keeps P (listen p) FittingProduct := by
  induction p using listen.induct with
  | case1 c address q => exact keeps_systemSocket address
  | case2 c address q => exact keeps_systemSocket address
  | case3 c address q => exact keeps_listen_bound .streams c address q
  | case4 c address q => exact keeps_listen_bound .sockets c address q
  | case5 c address q name =>
      intro ρ n h
      exact (keeps_rehearse name c .listen ρ n h).bind fun _ _ _ _ _ h _ =>
        keeps_recordedListen c h nofun
  | case6 c address q => exact fun ρ n h => .of_error h
  | case7 c q input ih =>
      intro ρ n h
      rw [listen]
      refine (ih ρ n h).bind fun x ρ n _ _ h fits => ?_
      cases x with
      | streamListener l => exact .of_pure h fits
      | packet _ | stream _ | muxed _ | muxListener _ => exact .of_error h
  | case8 c q input name ih =>
      intro ρ n h
      rw [listen]
      refine (keeps_rehearse name c .listen ρ n h).bind fun _ ρ n _ _ h _ => ?_
      refine (ih ρ n h).bind fun x _ _ _ _ h fits => keeps_recordedListen c h ?_
      rintro _ ⟨⟩
      exact fits
  | case9 c i q input plain unnamed =>
      intro ρ n h
      rw [listen]
      · exact .of_error h
      · exact plain
      · exact unnamed
  | case10 capacity input ih =>
      intro ρ n h
      rw [listen]
      refine (ih ρ n h).bind fun x ρ n _ _ h fits => ?_
      cases x with
      | muxListener l => exact (keeps_gather capacity h fits).map fun _ _ _ fits => fits
      | packet _ | stream _ | muxed _ | streamListener _ => exact .of_error h
  | case11 cell input => exact fun ρ n h => .of_error h

end Network

end TransportStack
