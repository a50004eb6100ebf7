import TransportStack.Proofs.Redial.Keeping
import TransportStack.Proofs.Single.Runs

/-!
Dialing and opening streams leave everything in order, and whether what they yield can be dialed
again depends on the way it was got: memory dials and sockets that dial for every stream yield what
can be, sessions and accepted sockets yield streams that cannot. None of them fails because
redialing is not supported.
-/

namespace TransportStack

/-- Whether what a producer dials can be dialed again, given the network after that: a demultiplexed
dialer yields a stream of the connection at hand, and a stand-in for an obfuscation yields what it
is given. -/
def Producer.redialable (n : Network) : Producer → Bool
  | .bound _ .memory _ _ | .bound _ .memoryMux _ _ | .onTop _ .nomux _ _ => true
  | .bound _ _ _ _ => false
  | .onTop c (.recorded _) _ input =>
      (c == .packetObfuscator || c == .streamObfuscator) && input.redialable n
  | .onTop _ _ _ _ => false
  | .rotating cell _ => n.atHand cell
  | .gathering _ _ => false

namespace Redial

open Network

/-- How an operation ends in a network in which all is in order. -/
structure Ends (n : Network) {β : Type} (r : β × Network) (post : β → Network → Prop) : Prop where
  retains : n.Retains r.2
  oneWay : r.2.OneWay
  post : post r.1 r.2

/-- What an operation comes to: something good, or a failure that has nothing to do with the lack of
a way to dial again. -/
structure OnOk {α : Type} (good : Network → α → Prop) (r : Except TransportError α) (n : Network) :
    Prop where
  ok : ∀ a, r = .ok a → good n a
  supported : r ≠ .error .redialNotSupported

/-- The same of a call that may have to wait. -/
structure OnReady {α : Type} (good : Network → α → Prop) (r : Poll TransportError α) (n : Network) :
    Prop where
  ready : ∀ a, r = .done (.ok a) → good n a
  supported : r ≠ .failed .redialNotSupported

def FlaggedStream (b : Bool) (n : Network) (s : Stream) : Prop :=
  (Product.stream s).Flagged b n

def FlaggedSocket (b : Bool) (n : Network) (s : Socket) : Prop := (Product.muxed s).Flagged b n

/-- An operation after which all is in order if it was before. -/
def Keeps {α : Type} (x : Net α) (good : Network → α → Prop) : Prop :=
  ∀ n, n.OneWay → Ends n (x n) (OnOk good)

theorem misfit_supported (operation : String) : misfit operation ≠ .redialNotSupported := nofun

namespace Ends

variable {n n₁ : Network} {α β : Type} {good : Network → α → Prop} {mid : Network → β → Prop}

theorem of_ok {a : α} (retains : n.Retains n₁) (h : n₁.OneWay) (ha : good n₁ a) :
    Ends n ((.ok a, n₁) : Except TransportError α × Network) (OnOk good) :=
  ⟨retains, h, by rintro _ ⟨⟩; exact ha, nofun⟩

theorem of_error {e : TransportError} (h : n.OneWay) (supported : e ≠ .redialNotSupported) :
    Ends n ((.error e, n) : Except TransportError α × Network) (OnOk good) :=
  ⟨.refl n, h, nofun, fun same => supported (Except.error.inj same)⟩

theorem of_closed (h : n.OneWay) :
    Ends n ((.error .closed, n) : Except TransportError α × Network) (OnOk good) :=
  of_error h nofun

theorem of_misfit {operation : String} (h : n.OneWay) :
    Ends n ((.error (misfit operation), n) : Except TransportError α × Network) (OnOk good) :=
  of_error h (misfit_supported operation)

theorem of_ready {a : α} (retains : n.Retains n₁) (h : n₁.OneWay) (ha : good n₁ a) :
    Ends n ((.ready a, n₁) : Poll TransportError α × Network) (OnReady good) :=
  ⟨retains, h, by rintro _ ⟨⟩; exact ha, nofun⟩

theorem of_failed (h : n.OneWay) :
    Ends n ((.failed .closed, n) : Poll TransportError α × Network) (OnReady good) :=
  ⟨.refl n, h, nofun, nofun⟩

theorem of_pending (h : n.OneWay) :
    Ends n ((.pending, n) : Poll TransportError α × Network) (OnReady good) :=
  ⟨.refl n, h, nofun, nofun⟩

theorem after {post : β → Network → Prop} {r : β × Network} (retains : n.Retains n₁)
    (h : Ends n₁ r post) : Ends n r post :=
  ⟨retains.trans h.retains, h.oneWay, h.post⟩

theorem weaken {post post' : β → Network → Prop} {r : β × Network} (h : Ends n r post)
    (weaker : ∀ b n, post b n → post' b n) : Ends n r post' :=
  ⟨h.retains, h.oneWay, weaker _ _ h.post⟩

theorem bind {x : Net β} {f : β → Net α} (hx : Ends n (x n) (OnOk mid))
    (hf : ∀ b n', n.Retains n' → n'.OneWay → mid n' b → Ends n' (f b n') (OnOk good)) :
    Ends n ((x >>= f) n) (OnOk good) := by
  obtain ⟨retains, oneWay, post⟩ := hx
  rcases hr : x n with ⟨e | b, n'⟩
  · rw [bind_of_error hr]
    rw [hr] at retains oneWay post
    exact after retains (of_error oneWay fun same => post.supported (same ▸ rfl))
  · rw [bind_of_ok hr]
    rw [hr] at retains oneWay post
    exact after retains (hf b n' retains oneWay (post.ok b rfl))

theorem map {x : Net β} {f : β → α} (hx : Ends n (x n) (OnOk mid))
    (hf : ∀ b n, mid n b → good n (f b)) : Ends n ((f <$> x) n) (OnOk good) := by
  rw [map_eq_pure_bind]
  exact hx.bind fun b n' _ oneWay hb => .of_ok (.refl n') oneWay (hf b n' hb)

/-- A call that only looks at the network first. -/
theorem of_get {f : Network → Net α} (h : Ends n (f n n) (OnOk good)) :
    Ends n ((MonadState.get >>= f) n) (OnOk good) := by
  rwa [get_bind]

theorem finished {r : Except TransportError α × Network} (h : Ends n r (OnOk good)) :
    Ends n ((.done r.1, r.2) : Poll TransportError α × Network) (OnReady good) :=
  ⟨h.retains, h.oneWay, fun a ha => h.post.ok a ((Poll.done.injEq _ _).mp ha),
    fun same => h.post.supported ((Poll.done.injEq _ _).mp same)⟩

end Ends

section

variable {τ : Type} {x : Exchange τ} {address : String}

theorem reach_of_some {i : Nat} (found : x.table.get? address = some i) :
    x.reach address = .ok i := by
  rw [Exchange.reach, found]

theorem reach_of_none (missing : x.table.get? address = none) :
    x.reach address = .error (Exchange.refused address) := by
  rw [Exchange.reach, missing]

variable (x address) in
theorem reach_cases :
    (∃ i, x.reach address = .ok i) ∨ x.reach address = .error (Exchange.refused address) := by
  cases found : x.table.get? address with
  | some i => exact .inl ⟨i, reach_of_some found⟩
  | none => exact .inr (reach_of_none found)

end

theorem keeps_dialStream (d : MemoryDial) : Keeps (dialStream d) (FlaggedStream true) := by
  intro n h
  obtain ⟨i, reached⟩ | refused := reach_cases n.streams d.address
  · rw [dialStream_eq reached]
    exact .of_ok (.of_same rfl rfl rfl) { h with streams := h.streams.deliver i rfl } ⟨trivial, rfl⟩
  · rw [dialStream_refused refused]
    exact .of_error h nofun

/-- The dialing half of a session can be dialed again if it was dialed. -/
theorem flagged_session {n : Network} {i : Nat} {o : Option MemoryDial × Signal}
    (there : n.origins[i]? = some o) : FlaggedSocket o.1.isSome n (.session i .first) := by
  refine ⟨(List.getElem?_eq_some_iff.1 there).1, ?_⟩
  change (n.memoryDial? (.session i .first)).isSome = _
  rw [memoryDial?_first, there]
  rfl

/-- A session that is dialed is there. -/
theorem retains_afterDial (n : Network) (d : MemoryDial) (i : Nat) :
    n.Retains (n.afterDial d i) ∧
      (n.afterDial d i).origins[n.sessions.length]? = some (some d, n.nextSignal []) :=
  Retains.of_newSession (s := n.nextSession d) rfl rfl rfl

theorem keeps_dialSession (d : MemoryDial) : Keeps (dialSession d) (FlaggedSocket true) := by
  intro n h
  obtain ⟨i, reached⟩ | refused := reach_cases n.sockets d.address
  · rw [dialSession_eq reached]
    obtain ⟨retains, there⟩ := retains_afterDial n d i
    have sessions := h.withNewSession d.capacity (n.nextSignal [])
      (n.newClient Implementation.memoryMuxName).1
      (serverAddress Implementation.memoryMuxName d.address) (some d)
    exact .of_ok retains { sessions with sockets := h.sockets.deliver i trivial }
      (flagged_session there)
  · rw [dialSession_refused refused]
    exact .of_error h nofun

theorem keeps_openOnSession (i : Nat) (side : Half) :
    Keeps (openOnSession i side) (FlaggedStream false) := by
  intro n h
  cases hs : n.sessions[i]? with
  | none =>
      rw [openOnSession]
      refine .of_get ?_
      simp only [hs]
      exact .of_closed h
  | some s =>
      cases closed : n.isFired s.signal || s.isDeserted side with
      | true =>
          rw [openOnSession]
          refine .of_get ?_
          simp only [hs, closed]
          exact .of_closed h
      | false =>
          rw [Bool.or_eq_false_iff] at closed
          rw [openOnSession_eq hs closed.1 closed.2]
          have final : (n.nextStream s side .second).IsFinal := rfl
          have carries := (h.sessions s (List.mem_of_getElem? hs)).opened side final
          refine .of_ok (.of_same rfl (origins_set hs ?_ ?_) rfl) { h.withSession carries with }
            ⟨trivial, rfl⟩
          · cases side <;> rfl
          · cases side <;> rfl

/-- Opening a stream on a socket that dials yields one that can be dialed again. -/
theorem keeps_openOnDialed {run : Net Product} (hrun : Keeps run fun _ _ => True) (i : Nat) :
    Keeps (openOnDialed run i) (FlaggedStream true) := by
  intro n h
  cases hs : n.dialed[i]? with
  | none =>
      rw [openOnDialed]
      refine .of_get ?_
      simp only [hs]
      exact .of_closed h
  | some s =>
      cases fired : n.isFired s.signal with
      | true =>
          rw [openOnDialed_closed hs fired]
          exact .of_closed h
      | false =>
          rw [openOnDialed_eq hs fired]
          refine (hrun n h).bind fun product n₁ retains h₁ _ => ?_
          have there : i < n₁.outlets.length := by
            have within := (List.getElem?_eq_some_iff.1 hs).1
            have length : n.dialed.length = n.outlets.length := (List.length_map _).symm
            exact Nat.lt_of_lt_of_le (length ▸ within) retains.outlets.length_le
          cases product with
          | stream inner =>
              have outlets := n₁.outlets_modify i (some inner.remoteAddress)
              exact .of_ok (.of_same outlets rfl rfl) { h₁ with }
                ⟨Nat.lt_of_lt_of_eq there (congrArg List.length outlets.symm), rfl⟩
          | packet _ | muxed _ | streamListener _ | muxListener _ => exact .of_misfit h₁

theorem keeps_openOnRecorded (i : Nat) : Keeps (openOnRecorded i) (FlaggedStream false) := by
  intro n h
  rw [openOnRecorded]
  refine .of_get ?_
  cases hs : n.recorded[i]? with
  | none => exact .of_closed h
  | some s =>
      cases fired : n.isFired s.signal with
      | true =>
          simp only [fired]
          exact .of_closed h
      | false =>
          simp only [fired]
          exact .of_ok (.of_same rfl rfl rfl) { h with } ⟨trivial, rfl⟩

theorem keeps_takeAccepted (i : Nat) {n : Network} (h : n.OneWay) :
    Ends n (takeAccepted i n) (OnReady (FlaggedStream false)) := by
  unfold takeAccepted
  cases n.accepted[i]? with
  | none => exact .of_failed h
  | some socket =>
      cases fired : n.isFired socket.signal with
      | true =>
          simp only [fired]
          exact .of_failed h
      | false =>
          simp only [fired]
          cases socket.stream? with
          | none => exact .of_pending h
          | some inner =>
              exact .of_ready (.of_same rfl rfl rfl) { h with } ⟨trivial, rfl⟩

theorem keeps_openWith {run : Net Product} (hrun : Keeps run fun _ _ => True) (s : Socket)
    {n : Network} (h : n.OneWay) : Ends n (openWith run s n) (OnReady (FlaggedStream s.dials)) := by
  cases s with
  | session i side => exact (keeps_openOnSession i side n h).finished
  | dialed i => exact (keeps_openOnDialed hrun i n h).finished
  | accepted i => exact keeps_takeAccepted i h
  | recorded i => exact (keeps_openOnRecorded i n h).finished

theorem Ends.atOnce {n : Network} {r : Poll TransportError Stream × Network}
    {good : Network → Stream → Prop} (h : Ends n r (OnReady good)) :
    Ends n (Network.atOnce r) (OnOk good) := by
  obtain ⟨_ | r, n'⟩ := r
  · exact .after h.retains (.of_closed h.oneWay)
  · exact ⟨h.retains, h.oneWay, fun s hs => h.post.ready s (congrArg Poll.done hs),
      fun same => h.post.supported (congrArg Poll.done same)⟩

/-- The stream of a demultiplexed dialer is one of the connection that is at hand afterwards. -/
theorem keeps_rotate (cell : Nat) {dial run : Net Product} (hdial : Keeps dial fun _ _ => True)
    (hrun : Keeps run fun _ _ => True) :
    Keeps (rotate cell dial run) fun n s => FlaggedStream (n.atHand cell) n s := by
  intro n h
  simp only [rotate]
  cases hr : n.rotations[cell]? with
  | none => exact .of_closed h
  | some rotation =>
      have within := (List.getElem?_eq_some_iff.1 hr).1
      have failed {n₁ : Network} (retains : n.Retains n₁) (h₁ : n₁.OneWay) {e : TransportError}
          (supported : e ≠ .redialNotSupported) (cells : List (Rotation Socket))
          (same : cells.length = n₁.rotations.length) :
          Ends n ((.error e, { n₁ with rotations := cells }) :
            Except TransportError Stream × Network)
            (OnOk fun n s => FlaggedStream (n.atHand cell) n s) := by
        have updated : n₁.Retains { n₁ with rotations := cells } := .of_same rfl rfl same
        exact .after (retains.trans updated) (.of_error { h₁ with } supported)
      have opened {n₁ : Network} (retains : n.Retains n₁) (h₁ : n₁.OneWay) (c : Socket)
          {next : Rotation Socket} (held : next.connection = some c) :
          let r := Network.atOnce (openWith run c n₁)
          Ends n (r.1, { r.2 with rotations := r.2.rotations.set cell next })
            (OnOk fun n s => FlaggedStream (n.atHand cell) n s) := by
        intro r
        obtain ⟨retains', oneWay, good⟩ := (keeps_openWith hrun c h₁).atOnce
        refine .after (retains.trans retains')
          ⟨.of_same rfl rfl (List.length_set ..), { oneWay with }, fun s hs => ?_, good.supported⟩
        have inside : cell < r.2.rotations.length :=
          Nat.lt_of_lt_of_le within (retains.trans retains').rotations
        have flagged : (Product.stream s).Flagged c.dials r.2 := good.ok s hs
        -- The connection at hand afterwards is the one on which the stream was opened.
        have at_hand : { r.2 with rotations := r.2.rotations.set cell next }.atHand cell =
            c.dials := by
          simp [Network.atHand, inside, held]
        change (Product.stream s).Flagged (Network.atHand _ cell) _
        rw [at_hand]
        exact flagged.mono (.of_same rfl rfl (List.length_set ..))
      simp only [Rotation.call]
      cases at_hand : rotation.begin.reusable? fun s => n.isClosed s with
      | some c =>
          refine opened (.refl n) h c ?_
          unfold Rotation.reusable? at at_hand
          split at at_hand
          · cases at_hand
          · exact (Option.filter_eq_some_iff.1 at_hand).1
      | none =>
          obtain ⟨retains, h₁, post⟩ := hdial n h
          rcases hd : dial n with ⟨e | product, n₁⟩
          all_goals rw [hd] at retains h₁ post
          · exact failed retains h₁ (fun same => post.supported (same ▸ rfl)) _
              (List.length_set ..)
          · cases product with
            | muxed c => exact opened retains h₁ c rfl
            | packet _ | stream _ | streamListener _ | muxListener _ =>
                exact failed retains h₁ (misfit_supported "dial") _ (List.length_set ..)

theorem keeps_rehearse (name : String) (c : Category) (side : Side) :
    Keeps (rehearse name c side) fun _ _ => True := by
  refine fun n h => ⟨.of_same rfl rfl rfl, { h with }, fun _ _ => trivial, ?_⟩
  simp only [rehearse, Rehearsal.run]
  split
  · exact fun same => nomatch Except.error.inj same
  · exact nofun

theorem keeps_systemSocket (address : String) {α : Type} (good : Network → α → Prop) :
    Keeps (systemSocket address) good := by
  intro n h
  rw [systemSocket]
  cases SocketAddress.read? address <;> exact .of_error h nofun

/-- What a recorded implementation dials is what it is given if it stands in for an obfuscation, and
else it is new and cannot be dialed again. -/
theorem keeps_recordedDial (name : String) (c : Category) {input : Option Product}
    {b : Network → Bool} {n : Network} (h : n.OneWay) (given : ∀ x ∈ input, x.Flagged (b n) n) :
    Ends n (recordedDial name c input n) (OnOk fun n x =>
      x.Flagged (input.isSome && (c == .packetObfuscator || c == .streamObfuscator) && b n) n) := by
  have packet : Ends n ((Product.packet <$> newPacketSocket : Net Product) n)
      (OnOk fun n x => x.Flagged false n) :=
    .of_ok (.of_same rfl rfl rfl) { h with } ⟨trivial, rfl⟩
  have muxed : Ends n ((Product.muxed <$> newRecordedSocket name : Net Product) n)
      (OnOk fun n x => x.Flagged false n) :=
    .of_ok (.of_same rfl rfl rfl) { h with } ⟨trivial, rfl⟩
  have stream : Ends n (recordedDial.newStream name n) (OnOk fun n x => x.Flagged false n) :=
    .of_ok (.of_same rfl rfl rfl) { h with } ⟨trivial, rfl⟩
  have passed {x : Product} (hx : x ∈ input) :
      Ends n ((pure x : Net Product) n) (OnOk fun n x => x.Flagged (b n) n) :=
    .of_ok (.refl n) h (given x hx)
  unfold recordedDial
  cases input with
  | none => cases c <;> first | exact packet | exact muxed | exact stream
  | some x =>
      have passed := passed rfl
      cases c <;> first | exact packet | exact muxed | exact stream | exact passed

theorem outlets_withSocket (n : Network) (q : Producer) :
    (n.withSocket q).outlets = n.outlets ++ [(q, n.nextSignal [])] :=
  List.map_append

theorem outlet_withSocket (n : Network) (q : Producer) :
    (n.withSocket q).outlets[n.dialed.length]? = some (q, n.nextSignal []) := by
  have length : n.dialed.length = n.outlets.length := (List.length_map _).symm
  rw [outlets_withSocket, length, List.getElem?_concat_length]

/-- A new socket that dials is there, and can be dialed again. -/
theorem flagged_withSocket (n : Network) (q : Producer) :
    n.Retains (n.withSocket q) ∧ FlaggedSocket true (n.withSocket q) (.dialed n.dialed.length) := by
  have more : n.outlets <+: (n.withSocket q).outlets :=
    outlets_withSocket n q ▸ List.prefix_append _ _
  exact ⟨⟨more, List.prefix_rfl, Nat.le_refl _⟩,
    (List.getElem?_eq_some_iff.1 (outlet_withSocket n q)).1, rfl⟩

theorem keeps_dial (q : Producer) : Keeps (dial q) fun n x => x.Flagged (q.redialable n) n := by
  have any {α : Type} {x : Net α} {good : Network → α → Prop} (hx : Keeps x good) :
      Keeps x fun _ _ => True :=
    fun n h => (hx n h).weaken fun _ _ ended => ⟨fun _ _ => trivial, ended.supported⟩
  induction q using dial.induct with
  | case1 c address p => exact keeps_systemSocket address _
  | case2 c address p => exact keeps_systemSocket address _
  | case3 c address p => exact fun n h => (keeps_dialStream _ n h).map fun _ _ flagged => flagged
  | case4 c address p => exact fun n h => (keeps_dialSession _ n h).map fun _ _ flagged => flagged
  | case5 c address p name =>
      intro n h
      exact (keeps_rehearse name c .dial n h).bind fun _ n _ h _ =>
        keeps_recordedDial (b := fun _ => false) name c h nofun
  | case6 c address p => exact fun n h => .of_misfit h
  | case7 c p input =>
      intro n h
      obtain ⟨retains, flagged⟩ := flagged_withSocket n input
      exact .of_ok retains { h with } flagged
  | case8 c p input name ih =>
      intro n h
      rw [dial]
      refine (keeps_rehearse name c .dial n h).bind fun _ n _ h _ => ?_
      refine (ih n h).bind fun x n _ h flagged => ?_
      have given : ∀ y ∈ some x, y.Flagged (input.redialable n) n := by
        rintro _ ⟨⟩
        exact flagged
      exact keeps_recordedDial (b := fun n => input.redialable n) name c h given
  | case9 c i p input plain unnamed =>
      intro n h
      rw [dial]
      · exact .of_misfit h
      · exact plain
      · exact unnamed
  | case10 cell c p input ih inside =>
      rw [dial]
      exact fun n h => (keeps_rotate cell (any ih) (any inside) n h).map fun _ _ flagged => flagged
  | case11 cell input _ ih =>
      have closed : Keeps (throw .closed : Net Product) fun _ _ => True :=
        fun _ h => .of_closed h
      rw [dial]
      · exact fun n h => (keeps_rotate cell (any ih) closed n h).map fun _ _ flagged => flagged
      · assumption
  | case12 capacity input => exact fun n h => .of_misfit h

theorem keeps_dialAgain (i : Nat) : Keeps (dialAgain i) (FlaggedStream true) := by
  intro n h
  rw [dialAgain]
  refine .of_get ?_
  cases hs : n.dialed[i]? with
  | none => exact .of_closed h
  | some s =>
      refine keeps_openOnDialed (fun n h => ?_) i n h
      exact (keeps_dial s.dialer n h).weaken fun _ _ ended => ⟨fun _ _ => trivial, ended.supported⟩

/-- What a socket hands out can be dialed again if the socket dials for every stream. -/
theorem keeps_openStream (s : Socket) {n : Network} (h : n.OneWay) :
    Ends n (openStream s n) (OnReady (FlaggedStream s.dials)) := by
  have other (s : Socket) :
      Ends n (openWith (throw .closed) s n) (OnReady (FlaggedStream s.dials)) :=
    keeps_openWith (fun _ h => .of_closed h) s h
  cases s with
  | dialed i => exact (keeps_dialAgain i n h).finished
  | session i side => exact other (.session i side)
  | accepted i => exact other (.accepted i)
  | recorded i => exact other (.recorded i)

end Redial

end TransportStack
