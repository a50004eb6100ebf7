import TransportStack.Proofs.Shutdown.Proceeding

/-!
Dialing, opening streams and dialing again fire no signal. What they make has signals of its own, and
is handed out or kept by the network for the other side.
-/

namespace TransportStack

variable {ρ ρ' : List Role}

namespace Network

section

variable {P : Signal → Prop} {n : Network} (h : n.Fits ρ)

include h

theorem Fits.afterDialStream (d : MemoryDial) (i : Nat) :
    (n.afterDialStream d i).Fits (ρ ++ [.plain]) := by
  have base := h.withSignal .plain
  refine { base with streamBinding := fun b hb => ?_ }
  obtain ⟨b', hb', signal, inbox⟩ := Exchange.mem_modifyInbox hb
  obtain ⟨role, waiting⟩ := base.streamBinding b' hb'
  rw [signal]
  refine ⟨role, fun x hx => ?_⟩
  obtain same | more := inbox
  · exact waiting x (same ▸ hx)
  · rw [more] at hx
    obtain old | new := List.mem_append.1 hx
    · exact waiting x old
    · rw [List.mem_singleton.1 new]
      exact h.isPlain_next nofun

theorem Fits.afterDial (d : MemoryDial) (i : Nat) :
    (n.afterDial d i).Fits (ρ ++ [.plain]) := by
  have base := h.withSignal .plain
  refine { base with session := fun s hs => ?_, socketBinding := fun b hb => ?_ }
  · obtain old | new := List.mem_append.1 hs
    · exact base.session s old
    · rw [List.mem_singleton.1 new]
      refine ⟨h.isPlain_next nofun, fun side x hx => ?_⟩
      cases side <;> cases hx
  · obtain ⟨b', hb', signal, -⟩ := Exchange.mem_modifyInbox hb
    rw [signal]
    exact base.socketBinding b' hb'

theorem Fits.withDialed {s : DialedSocket} (plain : s.signal.IsPlain ρ) :
    { n with dialed := n.dialed ++ [s] }.Fits ρ := by
  refine { h with dialed := fun t ht => ?_ }
  obtain old | new := List.mem_append.1 ht
  · exact h.dialed t old
  · rw [List.mem_singleton.1 new]
    exact plain

theorem Fits.afterOpen {i : Nat} {s : Session Stream} (hs : n.sessions[i]? = some s)
    (side : Half) : (n.afterOpen i s side).Fits (ρ ++ [.plain]) := by
  have base := h.withSignal .plain
  have plain : (n.nextSignal s.signal.lineage).IsPlain (ρ ++ [.plain]) :=
    h.isPlain_next (h.session s (List.mem_of_getElem? hs)).1
  refine { base with session := fun s' hs' => ?_ }
  obtain old | rfl := List.mem_or_eq_of_mem_set hs'
  · exact base.session s' old
  · obtain ⟨own, waiting⟩ := base.session s (List.mem_of_getElem? hs)
    refine ⟨own, fun side' x hx => ?_⟩
    have known : x ∈ (s.halves.get side').incoming ∨ x = n.nextStream s side .second := by
      cases side <;> cases side' <;>
        simp [Session.opened, Session.takeNumber, Session.sendStream, Session.modify,
          Halves.modify, Halves.get, Half.other] at hx ⊢ <;>
        first | exact .inl hx | exact hx
    obtain old | rfl := known
    · exact waiting side' x old
    · exact plain

end

section

variable {P : Signal → Prop}

theorem keeps_dialStream (d : MemoryDial) : Keeps P (dialStream d) FittingStream := by
  intro ρ n h
  cases reached : n.streams.reach d.address with
  | error e =>
      rw [dialStream_refused reached]
      exact .of_error h
  | ok i =>
      rw [dialStream_eq reached]
      have same : (n.afterDialStream d i).streams.signal? = n.streams.signal? :=
        n.streams.signal?_modifyInbox i _
      refine ⟨_, List.prefix_append ρ [.plain], .of_same rfl same rfl rfl,
        h.afterDialStream d i, ?_⟩
      rintro _ ⟨⟩
      exact h.isPlain_next nofun

theorem keeps_dialSession (d : MemoryDial) : Keeps P (dialSession d) fun _ _ _ => True := by
  intro ρ n h
  cases reached : n.sockets.reach d.address with
  | error e =>
      rw [dialSession_refused reached]
      exact .of_error h
  | ok i =>
      rw [dialSession_eq reached]
      have same : (n.afterDial d i).sockets.signal? = n.sockets.signal? :=
        n.sockets.signal?_modifyInbox i _
      exact ⟨_, List.prefix_append ρ [.plain], .of_same rfl rfl same rfl, h.afterDial d i,
        fun _ _ => trivial⟩

theorem keeps_openOnSession (i : Nat) (side : Half) :
    Keeps P (openOnSession i side) FittingStream := by
  intro ρ n h
  cases hs : n.sessions[i]? with
  | none =>
      rw [openOnSession]
      refine .of_get ?_
      simp only [hs]
      exact .of_error h
  | some s =>
      cases closed : n.isFired s.signal || s.isDeserted side with
      | true =>
          rw [openOnSession]
          refine .of_get ?_
          simp only [hs, closed]
          exact .of_error h
      | false =>
          rw [Bool.or_eq_false_iff] at closed
          rw [openOnSession_eq hs closed.1 closed.2]
          refine ⟨_, List.prefix_append ρ [.plain], .of_same rfl rfl rfl rfl,
            h.afterOpen hs side, ?_⟩
          rintro _ ⟨⟩
          exact h.isPlain_next (h.session s (List.mem_of_getElem? hs)).1

/-- A stream becomes the only stream of a connection, with a signal made for that. -/
theorem keeps_wrap {inner : Stream} {signal : Signal} {n : Network} (h : n.Fits ρ)
    (fits : inner.Fits ρ) (role : signal.HasRole ρ .single)
    (follows : signal.ancestors = inner.signal.lineage ∨
      ∀ k ∈ signal.ancestors, ρ[k]? = some .plain) (socket? : Option Nat) :
    Ends P ρ n (wrap inner signal socket? n) (OnOk FittingStream) := by
  refine ⟨ρ, List.prefix_rfl, .of_same rfl rfl rfl rfl,
    { h with link := fun l hl => ?_ }, ?_⟩
  · obtain old | new := List.mem_append.1 hl
    · exact h.link l old
    · rw [List.mem_singleton.1 new]
      exact role
  · rintro _ ⟨⟩
    exact ⟨role, fits, follows⟩

theorem keeps_openOnDialed {run : Net Product} (hrun : Keeps P run FittingProduct) (i : Nat) :
    Keeps P (openOnDialed run i) FittingStream := by
  intro ρ n h
  cases hs : n.dialed[i]? with
  | none =>
      rw [openOnDialed]
      refine .of_get ?_
      simp only [hs]
      exact .of_error h
  | some s =>
      cases fired : n.isFired s.signal with
      | true =>
          rw [openOnDialed_closed hs fired]
          exact .of_error h
      | false =>
          rw [openOnDialed_eq hs fired]
          refine (hrun ρ n h).bind fun product ρ₁ n₁ more _ h₁ fits => ?_
          cases product with
          | stream inner =>
              have plain := (h.dialed s (List.mem_of_getElem? hs)).mono more
              have dialed : { n₁ with dialed := n₁.dialed.modify i fun s =>
                  { s with remote? := some inner.remoteAddress } }.Fits ρ₁ := by
                refine { h₁ with dialed := fun t ht => ?_ }
                obtain ⟨t', ht', same | same⟩ := mem_modify ht
                all_goals
                  rw [same]
                  exact h₁.dialed t' ht'
              refine .of_modifyGet List.prefix_rfl (.of_same rfl rfl rfl rfl) ?_
              refine .of_modifyGet (List.prefix_append ρ₁ [.single])
                (.of_same rfl rfl rfl rfl) ?_
              refine keeps_wrap (dialed.withSignal .single)
                (Stream.Fits.mono fits (List.prefix_append ..)) (dialed.role_next .single _)
                (.inr fun k hk => ?_) (some i)
              exact Role.mono (List.prefix_append ..) (plain k hk)
          | packet _ | muxed _ | streamListener _ | muxListener _ => exact .of_error h₁

theorem keeps_openOnRecorded (i : Nat) : Keeps P (openOnRecorded i) FittingStream := by
  intro ρ n h
  rw [openOnRecorded]
  refine .of_get ?_
  cases hs : n.recorded[i]? with
  | none => exact .of_error h
  | some s =>
      cases fired : n.isFired s.signal with
      | true =>
          simp only [fired]
          exact .of_error h
      | false =>
          simp only [fired]
          have base := h.withSignal .plain
          refine .of_modifyGet (List.prefix_append ρ [.plain]) (.of_same rfl rfl rfl rfl) ?_
          refine .of_modifyGet List.prefix_rfl (.of_same rfl rfl rfl rfl) (.of_pure ?_ ?_)
          · refine { base with recorded := fun t ht => ?_ }
            obtain old | new := List.mem_or_eq_of_mem_set ht
            · exact base.recorded t old
            · rw [new]
              exact base.recorded s (List.mem_of_getElem? hs)
          · exact h.isPlain_next nofun

theorem Ends.finished {n : Network} {r : Except TransportError Stream × Network}
    (h : Ends P ρ n r (OnOk FittingStream)) :
    Ends P ρ n (openWith.finished r) (OnReady FittingStream) := by
  obtain ⟨ρ', more, proceeds, fits, good⟩ := h
  refine ⟨ρ', more, proceeds, fits, fun s hs => good s ?_⟩
  exact (Poll.done.injEq _ _).mp hs

theorem keeps_takeAccepted (i : Nat) {n : Network} (h : n.Fits ρ) :
    Ends P ρ n (takeAccepted i n) (OnReady FittingStream) := by
  unfold takeAccepted
  cases hs : n.accepted[i]? with
  | none => exact .of_failed h
  | some socket =>
      cases fired : n.isFired socket.signal with
      | true =>
          simp only [fired]
          exact .of_failed h
      | false =>
          simp only [fired]
          cases hi : socket.stream? with
          | none => exact .of_pending h
          | some inner =>
              obtain ⟨role, waiting⟩ := h.accepted socket (List.mem_of_getElem? hs)
              obtain ⟨fits, follows⟩ := waiting inner hi
              let n' : Network :=
                { n with accepted := n.accepted.set i { socket with stream? := none } }
              have proceeds : n.Proceeds P n' := .of_same rfl rfl rfl rfl
              have taken : n'.Fits ρ := by
                refine { h with accepted := fun t ht => ?_ }
                obtain old | new := List.mem_or_eq_of_mem_set ht
                · exact h.accepted t old
                · rw [new]
                  exact ⟨role, nofun⟩
              have wrapped := keeps_wrap (P := P) taken fits role (.inl follows) none
              exact (wrapped.after List.prefix_rfl proceeds).finished

theorem Ends.atOnce {n : Network} {r : Poll TransportError Stream × Network}
    (h : Ends P ρ n r (OnReady FittingStream)) :
    Ends P ρ n (Network.atOnce r) (OnOk FittingStream) := by
  obtain ⟨ρ', more, proceeds, fits, good⟩ := h
  obtain ⟨_ | r, n'⟩ := r
  · exact .after more proceeds (.of_error fits)
  · exact ⟨ρ', more, proceeds, fits, fun s hs => good s (congrArg Poll.done hs)⟩

theorem keeps_openWith {run : Net Product} (hrun : Keeps P run FittingProduct) (s : Socket)
    {n : Network} (h : n.Fits ρ) : Ends P ρ n (openWith run s n) (OnReady FittingStream) := by
  cases s with
  | session i side => exact (keeps_openOnSession i side ρ n h).finished
  | dialed i => exact (keeps_openOnDialed hrun i ρ n h).finished
  | accepted i => exact keeps_takeAccepted i h
  | recorded i => exact (keeps_openOnRecorded i ρ n h).finished

theorem keeps_rotate (cell : Nat) {dial run : Net Product} (hdial : Keeps P dial FittingProduct)
    (hrun : Keeps P run FittingProduct) : Keeps P (rotate cell dial run) FittingStream := by
  intro ρ n h
  have aside {r : Except TransportError Stream × Network} (cells : List (Rotation Socket))
      (ends : Ends P ρ n r (OnOk FittingStream)) :
      Ends P ρ n (r.1, { r.2 with rotations := cells }) (OnOk FittingStream) := by
    obtain ⟨ρ', more, proceeds, fits, good⟩ := ends
    exact ⟨ρ', more, proceeds.trans (.of_same rfl rfl rfl rfl), { fits with }, good⟩
  simp only [rotate]
  cases n.rotations[cell]? with
  | none => exact .of_error h
  | some rotation =>
      simp only [Rotation.call]
      cases rotation.begin.reusable? fun s => n.isClosed s with
      | some s => exact aside _ (keeps_openWith hrun s h).atOnce
      | none =>
          have ends := hdial ρ n h
          rcases hd : dial n with ⟨e | product, n₁⟩
          · rw [hd] at ends
            obtain ⟨ρ', more, proceeds, fits, -⟩ := ends
            exact aside (r := (.error e, n₁)) _ (.after more proceeds (.of_error fits))
          · rw [hd] at ends
            obtain ⟨ρ', more, proceeds, fits, -⟩ := ends
            cases product with
            | muxed s => exact aside _ (.after more proceeds (keeps_openWith hrun s fits).atOnce)
            | packet _ | stream _ | streamListener _ | muxListener _ =>
                exact aside (r := (.error _, n₁)) _ (.after more proceeds (.of_error fits))

theorem keeps_rehearse (name : String) (c : Category) (side : Side) :
    Keeps P (rehearse name c side) fun _ _ _ => True :=
  fun ρ _ h => ⟨ρ, List.prefix_rfl, .of_same rfl rfl rfl rfl, { h with }, fun _ _ => trivial⟩

theorem keeps_systemSocket (address : String) : Keeps P (systemSocket address) FittingProduct := by
  intro ρ n h
  rw [systemSocket]
  cases SocketAddress.read? address <;> exact .of_error h

theorem keeps_newPacketSocket :
    Keeps P newPacketSocket fun s ρ _ => s.signal.IsPlain ρ := by
  intro ρ n h
  rw [newPacketSocket]
  refine .of_modifyGet (List.prefix_append ρ [.plain]) (.of_same rfl rfl rfl rfl) ?_
  exact .of_pure (h.withSignal .plain) (h.isPlain_next nofun)

theorem keeps_newRecordedSocket (name : String) :
    Keeps P (newRecordedSocket name) fun _ _ _ => True := by
  intro ρ n h
  have base := h.withSignal .plain
  rw [newRecordedSocket]
  refine .of_modifyGet (List.prefix_append ρ [.plain]) (.of_same rfl rfl rfl rfl) (.of_get ?_)
  refine .of_modifyGet List.prefix_rfl (.of_same rfl rfl rfl rfl) (.of_pure ?_ trivial)
  refine { base with recorded := fun s hs => ?_ }
  obtain old | new := List.mem_append.1 hs
  · exact base.recorded s old
  · rw [List.mem_singleton.1 new]
    exact h.isPlain_next nofun

/-- What recorded implementations dial is new, or what they were given. -/
theorem keeps_recordedDial (name : String) (c : Category) {input : Option Product} {n : Network}
    (h : n.Fits ρ) (fits : ∀ x ∈ input, x.Fits ρ n.outline) :
    Ends P ρ n (recordedDial name c input n) (OnOk FittingProduct) := by
  have packet : Ends P ρ n ((Product.packet <$> newPacketSocket : Net Product) n)
      (OnOk FittingProduct) := (keeps_newPacketSocket ρ n h).map fun _ _ _ plain => plain
  have stream : Ends P ρ n (recordedDial.newStream name n) (OnOk FittingProduct) := by
    rw [recordedDial.newStream]
    refine .of_modifyGet (List.prefix_append ρ [.plain]) (.of_same rfl rfl rfl rfl) ?_
    exact .of_pure (h.withSignal .plain) (h.isPlain_next nofun)
  have given {x : Product} (hx : x ∈ input) :
      Ends P ρ n ((pure x : Net Product) n) (OnOk FittingProduct) := .of_pure h (fits x hx)
  unfold recordedDial
  cases c.gives with
  | packet =>
      cases input with
      | none => exact packet
      | some x => by_cases obfuscates : c = .packetObfuscator <;> simp [obfuscates, packet, given]
  | muxed => exact (keeps_newRecordedSocket name ρ n h).map fun _ _ _ _ => trivial
  | stream | address =>
      cases input with
      | none => exact stream
      | some x => by_cases obfuscates : c = .streamObfuscator <;> simp [obfuscates, stream, given]

theorem keeps_dial (p : Producer) : Keeps P (dial p) FittingProduct := by
  have stream {x : Net Stream} (hx : Keeps P x FittingStream) :
      Keeps P (Product.stream <$> x) FittingProduct :=
    fun ρ n h => (hx ρ n h).map fun _ _ _ fits => fits
  induction p using dial.induct with
  | case1 c address q => exact keeps_systemSocket address
  | case2 c address q => exact keeps_systemSocket address
  | case3 c address q => exact stream (keeps_dialStream _)
  | case4 c address q =>
      exact fun ρ n h => (keeps_dialSession _ ρ n h).map fun _ _ _ _ => trivial
  | case5 c address q name =>
      intro ρ n h
      exact (keeps_rehearse name c .dial ρ n h).bind fun _ _ _ _ _ h _ =>
        keeps_recordedDial name c h nofun
  | case6 c address q => exact fun ρ n h => .of_error h
  | case7 c q input =>
      intro ρ n h
      have base := h.withSignal .plain
      rw [dial]
      refine .of_modifyGet (List.prefix_append ρ [.plain]) (.of_same rfl rfl rfl rfl) (.of_get ?_)
      refine .of_modifyGet List.prefix_rfl (.of_same rfl rfl rfl rfl) (.of_pure ?_ trivial)
      exact base.withDialed (h.isPlain_next nofun)
  | case8 c q input name ih =>
      intro ρ n h
      rw [dial]
      refine (keeps_rehearse name c .dial ρ n h).bind fun _ ρ n _ _ h _ => ?_
      refine (ih ρ n h).bind fun x _ _ _ _ h fits => keeps_recordedDial name c h ?_
      rintro _ ⟨⟩
      exact fits
  | case9 c i q input plain unnamed =>
      intro ρ n h
      rw [dial]
      · exact .of_error h
      · exact plain
      · exact unnamed
  | case10 cell c q input ih inside =>
      rw [dial]
      exact stream (keeps_rotate cell ih inside)
  | case11 cell input _ ih =>
      rw [dial]
      · exact stream (keeps_rotate cell ih fun ρ n h => .of_error h)
      · assumption
  | case12 capacity input => exact fun ρ n h => .of_error h

theorem keeps_dialAgain (i : Nat) : Keeps P (dialAgain i) FittingStream := by
  intro ρ n h
  rw [dialAgain]
  refine .of_get ?_
  cases hs : n.dialed[i]? with
  | none => exact .of_error h
  | some s => exact keeps_openOnDialed (keeps_dial s.dialer) i ρ n h

theorem keeps_openStream (s : Socket) {n : Network} (h : n.Fits ρ) :
    Ends P ρ n (openStream s n) (OnReady FittingStream) := by
  have other (s : Socket) : Ends P ρ n (openWith (throw .closed) s n) (OnReady FittingStream) :=
    keeps_openWith (fun _ _ h => .of_error h) s h
  cases s with
  | dialed i => exact (keeps_dialAgain i ρ n h).finished
  | session i side => exact other (.session i side)
  | accepted i => exact other (.accepted i)
  | recorded i => exact other (.recorded i)

theorem keeps_redialStream (s : Stream) : Keeps P (redialStream s) FittingStream := by
  intro ρ n h
  cases s with
  | piped s =>
      rw [redialStream]
      cases s.dial? with
      | none => exact .of_error h
      | some d => exact keeps_dialStream d ρ n h
  | single inner signal socket? =>
      cases socket? with
      | none => exact .of_error h
      | some i => exact keeps_dialAgain i ρ n h
  | recorded => exact .of_error h

theorem keeps_redialSocket (s : Socket) : Keeps P (redialSocket s) fun _ _ _ => True := by
  intro ρ n h
  rw [redialSocket]
  refine .of_get ?_
  cases s with
  | dialed i =>
      cases hs : n.dialed[i]? with
      | none =>
          simp only [hs]
          exact .of_error h
      | some s =>
          have base := h.withSignal .plain
          simp only [hs]
          refine .of_modifyGet (List.prefix_append ρ [.plain]) (.of_same rfl rfl rfl rfl) ?_
          refine .of_modifyGet List.prefix_rfl (.of_same rfl rfl rfl rfl) (.of_pure ?_ trivial)
          exact base.withDialed (h.isPlain_next nofun)
  | session _ _ | accepted _ | recorded _ =>
      simp only
      generalize n.memoryDial? _ = d?
      cases d? with
      | none => exact .of_error h
      | some d => exact keeps_dialSession d ρ n h

end

end Network

end TransportStack
