import TransportStack.Proofs.Shutdown.Roles

/-!
What an operation leaves as it was, and how it ends. Operations keep the roles of the signals, give
roles to new ones, and leave the demultiplexed listeners alone, up to streams that are taken out of a
queue whose listener has not shut down.
-/

namespace TransportStack

variable {ρ ρ' : List Role}

/-- The shutdown signal is a child of the signal of the listener. -/
def Demuxer.Rooted (n : Network) (d : Demuxer) : Prop :=
  ∃ parent, d.listener.signal? n = some parent ∧ d.shutdown.ancestors = parent.lineage

namespace Network

/-- The listeners within the program stay and keep their signals. -/
def KeepsListeners (n n' : Network) : Prop :=
  (∀ i s, n.streams.signal? i = some s → n'.streams.signal? i = some s) ∧
    ∀ i s, n.sockets.signal? i = some s → n'.sockets.signal? i = some s

/-- What an operation that is not a step of a task leaves as it was, when all signals that it fires
are of a kind. -/
structure Proceeds (P : Signal → Prop) (n n' : Network) : Prop where
  listeners : n.KeepsListeners n'
  fired : n.signals.fired ⊆ n'.signals.fired
  causes : ∀ f ∈ n'.signals.fired, f ∈ n.signals.fired ∨ P f
  demuxers : ∀ (i : Nat) (d : Demuxer), n.demuxers[i]? = some d → ∃ fan : FanIn Socket Stream,
    n'.demuxers[i]? = some { d with fan := fan } ∧ fan.workers = d.fan.workers ∧
      fan.accepting = d.fan.accepting ∧ fan.parked ⊆ d.fan.parked ∧
      (n.isFired d.shutdown = true → fan = d.fan)
  gathered : ∀ (i : Nat) (d : Demuxer), n'.demuxers[i]? = some d →
    i < n.demuxers.length ∨ d.fan.accepting = true ∧ d.fan.parked = [] ∧ d.Rooted n'

theorem isFired_mono {n n' : Network} (more : n.signals.fired ⊆ n'.signals.fired) {s : Signal}
    (h : n.isFired s = true) : n'.isFired s = true := by
  obtain ⟨f, hf, above⟩ := Signals.isFired_iff.1 h
  exact Signals.isFired_iff.2 ⟨f, more hf, above⟩

mutual

theorem KeepsListeners.stream_signal? {n n' : Network} (h : n.KeepsListeners n')
    {l : StreamListener} {s : Signal} (hs : l.signal? n = some s) : l.signal? n' = some s :=
  match l with
  | .memory i => h.1 i s hs
  | .gathered _ _ _ => hs
  | .idle _ => hs

theorem KeepsListeners.mux_signal? {n n' : Network} (h : n.KeepsListeners n') {l : MuxListener}
    {s : Signal} (hs : l.signal? n = some s) : l.signal? n' = some s :=
  match l with
  | .memory i => h.2 i s hs
  | .single inner => h.stream_signal? (l := inner) hs
  | .idle _ => hs

end

theorem KeepsListeners.rooted {n n' : Network} (h : n.KeepsListeners n') {d : Demuxer}
    (hd : d.Rooted n) : d.Rooted n' := by
  obtain ⟨parent, hp, above⟩ := hd
  exact ⟨parent, h.mux_signal? hp, above⟩

namespace Proceeds

variable {P : Signal → Prop} {n n₁ n' : Network}

theorem of_kept {n n' : Network} (fired : n'.signals.fired = n.signals.fired)
    (listeners : n.KeepsListeners n') (demuxers : n'.demuxers = n.demuxers) :
    Proceeds P n n' where
  listeners := listeners
  fired := by rw [fired]; exact List.Subset.refl _
  causes f hf := by rw [fired] at hf; exact .inl hf
  demuxers i d hd := ⟨d.fan, by rwa [demuxers], rfl, rfl, List.Subset.refl _, fun _ => rfl⟩
  gathered i d hd := by
    rw [demuxers] at hd
    exact .inl (List.getElem?_eq_some_iff.1 hd).1

/-- What concerns neither signals that have fired nor listeners. -/
theorem of_same {n n' : Network} (fired : n'.signals.fired = n.signals.fired)
    (streams : n'.streams.signal? = n.streams.signal?)
    (sockets : n'.sockets.signal? = n.sockets.signal?) (demuxers : n'.demuxers = n.demuxers) :
    Proceeds P n n' :=
  of_kept fired ⟨fun i s hs => by rwa [streams], fun i s hs => by rwa [sockets]⟩ demuxers

theorem refl (n : Network) : Proceeds P n n := of_same rfl rfl rfl rfl

theorem trans (h : Proceeds P n n₁) (h' : Proceeds P n₁ n') : Proceeds P n n' where
  listeners := ⟨fun i s hs => h'.listeners.1 i s (h.listeners.1 i s hs),
    fun i s hs => h'.listeners.2 i s (h.listeners.2 i s hs)⟩
  fired := fun _ hf => h'.fired (h.fired hf)
  causes f hf := (h'.causes f hf).elim (h.causes f) .inr
  demuxers i d hd := by
    obtain ⟨fan₁, hd₁, workers₁, accepting₁, parked₁, same₁⟩ := h.demuxers i d hd
    obtain ⟨fan, hd', workers, accepting, parked, same⟩ := h'.demuxers i _ hd₁
    refine ⟨fan, hd', workers.trans workers₁, accepting.trans accepting₁,
      List.Subset.trans parked parked₁, fun fired => ?_⟩
    exact (same (isFired_mono h.fired fired)).trans (same₁ fired)
  gathered i d hd := by
    obtain old | new := h'.gathered i d hd
    · obtain older | ⟨accepting₁, none_waits, rooted⟩ :=
        h.gathered i _ (List.getElem?_eq_getElem old)
      · exact .inl older
      · obtain ⟨fan, hd', -, accepting, parked, -⟩ :=
          h'.demuxers i _ (List.getElem?_eq_getElem old)
        cases hd.symm.trans hd'
        rw [none_waits] at parked
        exact .inr ⟨accepting.trans accepting₁, List.subset_nil.1 parked,
          h'.listeners.rooted rooted⟩
    · exact .inr new

theorem outline (h : Proceeds P n n') : n.outline <+: n'.outline := by
  rw [List.prefix_iff_getElem?]
  intro i hi
  have within : i < n.demuxers.length := by simpa [Network.outline] using hi
  obtain ⟨fan, hd, -⟩ := h.demuxers i _ (List.getElem?_eq_getElem within)
  simp [Network.outline, hd]

end Proceeds

/-- How an operation ends: what it leaves fits, and what it comes to is as it should be. -/
def Ends (P : Signal → Prop) (ρ : List Role) (n : Network) {β : Type} (r : β × Network)
    (post : β → List Role → Network → Prop) : Prop :=
  ∃ ρ', ρ <+: ρ' ∧ n.Proceeds P r.2 ∧ r.2.Fits ρ' ∧ post r.1 ρ' r.2

/-- What holds of a result unless the operation has failed. -/
def OnOk {α : Type} (good : α → List Role → Network → Prop) (r : Except TransportError α)
    (ρ : List Role) (n : Network) : Prop :=
  ∀ a, r = .ok a → good a ρ n

/-- What holds of a result unless the operation has failed or has to wait. -/
def OnReady {α : Type} (good : α → List Role → Network → Prop) (r : Poll TransportError α)
    (ρ : List Role) (n : Network) : Prop :=
  ∀ a, r = .done (.ok a) → good a ρ n

def FittingStream (s : Stream) (ρ : List Role) (_ : Network) : Prop := s.Fits ρ

def FittingProduct (x : Product) (ρ : List Role) (n : Network) : Prop := x.Fits ρ n.outline

/-- An operation that ends well in every network that fits. -/
def Keeps (P : Signal → Prop) {α : Type} (x : Net α) (good : α → List Role → Network → Prop) :
    Prop :=
  ∀ ρ n, n.Fits ρ → Ends P ρ n (x n) (OnOk good)

namespace Ends

variable {P : Signal → Prop} {n n₁ : Network} {α β : Type}
  {good : α → List Role → Network → Prop} {mid : β → List Role → Network → Prop}

/-- What neither has an effect nor fails. -/
theorem of_pure {a : α} (fits : n.Fits ρ) (h : good a ρ n) :
    Ends P ρ n ((pure a : Net α) n) (OnOk good) :=
  ⟨ρ, List.prefix_rfl, .refl n, fits, by rintro _ ⟨⟩; exact h⟩

theorem of_error {e : TransportError} (fits : n.Fits ρ) :
    Ends P ρ n ((.error e, n) : Except TransportError α × Network) (OnOk good) :=
  ⟨ρ, List.prefix_rfl, .refl n, fits, nofun⟩

theorem of_pending (fits : n.Fits ρ) :
    Ends P ρ n ((.pending, n) : Poll TransportError α × Network) (OnReady good) :=
  ⟨ρ, List.prefix_rfl, .refl n, fits, fun _ ha => by cases ha⟩

theorem of_failed {e : TransportError} (fits : n.Fits ρ) :
    Ends P ρ n ((.failed e, n) : Poll TransportError α × Network) (OnReady good) :=
  ⟨ρ, List.prefix_rfl, .refl n, fits, fun _ ha => by cases ha⟩

/-- A wait that only a signal ends. -/
theorem of_waiting (fits : n.Fits ρ) (fired : Bool) :
    Ends P ρ n ((if fired then .failed .closed else .pending : Poll TransportError α), n)
      (OnReady good) := by
  cases fired with
  | true => exact of_failed fits
  | false => exact of_pending fits

/-- After what went before. -/
theorem after {post : β → List Role → Network → Prop} {r : β × Network} (more : ρ <+: ρ')
    (proceeds : n.Proceeds P n₁) (h : Ends P ρ' n₁ r post) : Ends P ρ n r post := by
  obtain ⟨ρ₂, more', proceeds', fits, good⟩ := h
  exact ⟨ρ₂, more.trans more', proceeds.trans proceeds', fits, good⟩

theorem bind {x : Net β} {f : β → Net α} (hx : Ends P ρ n (x n) (OnOk mid))
    (hf : ∀ b ρ' n', ρ <+: ρ' → n.Proceeds P n' → n'.Fits ρ' → mid b ρ' n' →
      Ends P ρ' n' (f b n') (OnOk good)) :
    Ends P ρ n ((x >>= f) n) (OnOk good) := by
  obtain ⟨ρ', more, proceeds, fits, hmid⟩ := hx
  rcases hr : x n with ⟨e | b, n'⟩
  · rw [bind_of_error hr]
    rw [hr] at proceeds fits
    exact after more proceeds (of_error fits)
  · rw [bind_of_ok hr]
    rw [hr] at proceeds fits hmid
    exact after more proceeds (hf b ρ' n' more proceeds fits (hmid b rfl))

theorem map {x : Net β} {f : β → α} (hx : Ends P ρ n (x n) (OnOk mid))
    (hf : ∀ b ρ n, mid b ρ n → good (f b) ρ n) : Ends P ρ n ((f <$> x) n) (OnOk good) := by
  rw [map_eq_pure_bind]
  exact hx.bind fun b ρ' n' _ _ fits hb => .of_pure fits (hf b ρ' n' hb)

theorem of_get {f : Network → Net α} (h : Ends P ρ n (f n n) (OnOk good)) :
    Ends P ρ n ((MonadState.get >>= f) n) (OnOk good) := by
  rwa [get_bind]

/-- A part that changes the network and cannot fail. -/
theorem of_modifyGet {g : Network → β × Network} {f : β → Net α} (more : ρ <+: ρ')
    (proceeds : n.Proceeds P (g n).2) (h : Ends P ρ' (g n).2 (f (g n).1 (g n).2) (OnOk good)) :
    Ends P ρ n ((modifyGet g >>= f) n) (OnOk good) := by
  have changed : (modifyGet g : Net β) n = (.ok (g n).1, (g n).2) := rfl
  rw [bind_of_ok changed]
  exact after more proceeds h

end Ends

end Network

end TransportStack
