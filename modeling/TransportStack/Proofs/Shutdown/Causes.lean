import TransportStack.Proofs.Shutdown.Accepting
import TransportStack.Proofs.Shutdown.Firing
import TransportStack.Proofs.Shutdown.Program

/-!
Why signals fire. Only closing a listener, letting go of it, and a failure of its task to accept fire
the shutdown signal of a demultiplexed listener. What a program gets by a use of a thing fits the
roles of the signals.
-/

namespace TransportStack

open Network

/-- The signals that closing a thing fires. -/
def Product.ClosesBy (ρ : List Role) (f : Signal) : Product → Prop
  | .streamListener l => ClosesWith ρ l.holdings f
  | .muxListener l => ClosesWith ρ l.holdings f
  | .packet _ | .stream _ | .muxed _ => f.IsOrdinary ρ

def Use.Causes (ρ : List Role) (x : Product) (f : Signal) : Use → Prop
  | .close => x.ClosesBy ρ f
  | _ => f.IsOrdinary ρ

/-- The signals that an act fires. -/
def Act.Causes (ρ : List Role) (p : Program) (f : Signal) : Act → Prop
  | .use place u => ∃ x, p.products[place]? = some x ∧ u.Causes ρ x f
  | .link => f.IsOrdinary ρ
  | .release others => LetGo ρ (p.network.held (p.roots ++ others)) f
  | .acceptor i fault? => f.HasRole ρ (.shutdown i) ∧ p.network.FailsToAccept i fault?
  | .worker i _ _ => f.IsOrdinary ρ ∧ p.network.isShut i = false
  | .produce .. | .follow .. | .pairSockets _ | .pairStreams .. | .drop _ | .clear => False

section

variable {ρ ρ' : List Role} (more : ρ <+: ρ') {f : Signal}

include more

theorem Signal.IsOrdinary.mono (h : f.IsOrdinary ρ) : f.IsOrdinary ρ' :=
  h.imp (Role.mono more) (Role.mono more)

theorem Network.ClosesWith.mono {inside : List Holding} (h : ClosesWith ρ inside f) :
    ClosesWith ρ' inside f :=
  h.imp (Role.mono more) fun ⟨i, role, there⟩ => ⟨i, Role.mono more role, there⟩

theorem Network.LetGo.mono {held : List Holding} (h : LetGo ρ held f) : LetGo ρ' held f :=
  h.imp (fun ⟨role, unheld⟩ => ⟨Role.mono more role, unheld⟩)
    fun ⟨i, role, unheld⟩ => ⟨i, Role.mono more role, unheld⟩

theorem Use.Causes.mono {x : Product} {u : Use} (h : u.Causes ρ x f) : u.Causes ρ' x f := by
  cases u with
  | close =>
      cases x with
      | streamListener l => exact ClosesWith.mono more h
      | muxListener l => exact ClosesWith.mono more h
      | packet _ | stream _ | muxed _ => exact Signal.IsOrdinary.mono more h
  | _ => exact Signal.IsOrdinary.mono more h

theorem Act.Causes.mono {p : Program} {a : Act} (h : a.Causes ρ p f) : a.Causes ρ' p f := by
  cases a with
  | use place u =>
      obtain ⟨x, there, cause⟩ := h
      exact ⟨x, there, cause.mono more⟩
  | link => exact Signal.IsOrdinary.mono more h
  | release others => exact LetGo.mono more h
  | acceptor i fault? => exact ⟨Role.mono more h.1, h.2⟩
  | worker i k fault? => exact ⟨Signal.IsOrdinary.mono more h.1, h.2⟩
  | _ => exact h

end

namespace Network

variable {ρ : List Role} {n : Network} {P : Signal → Prop}

def FittingProducts (xs : List Product) (ρ : List Role) (n : Network) : Prop :=
  ∀ x ∈ xs, x.Fits ρ n.outline

theorem Ends.weaken {Q : Signal → Prop} {β : Type} {post : β → List Role → Network → Prop}
    {r : β × Network} (h : Ends P ρ n r post) (weaker : ∀ f, P f → Q f) : Ends Q ρ n r post := by
  obtain ⟨ρ', more, proceeds, fits, good⟩ := h
  exact ⟨ρ', more, proceeds.weaken weaker, fits, good⟩

theorem FiresOnly.ends {n' : Network} (h : FiresOnly P ρ n n') :
    Ends P ρ n (([], n') : List Product × Network) FittingProducts :=
  ⟨ρ, List.prefix_rfl, h.2, h.1, fun _ hx => absurd hx List.not_mem_nil⟩

section

variable {α : Type} {good : α → List Role → Network → Prop} {f : α → Product}
  (fits : ∀ a ρ n, good a ρ n → (f a).Fits ρ n.outline)

include fits

theorem Ends.made {r : Except TransportError α × Network} (h : Ends P ρ n r (OnOk good)) :
    Ends P ρ n (Use.made f r) FittingProducts := by
  obtain ⟨ρ', more, proceeds, after, ok⟩ := h
  obtain ⟨e | a, n'⟩ := r
  · exact ⟨ρ', more, proceeds, after, fun _ hx => absurd hx List.not_mem_nil⟩
  · refine ⟨ρ', more, proceeds, after, fun x hx => ?_⟩
    rw [List.mem_singleton.1 hx]
    exact fits a ρ' n' (ok a rfl)

theorem Ends.looked {r : Poll TransportError α × Network} (h : Ends P ρ n r (OnReady good)) :
    Ends P ρ n (Use.looked f r) FittingProducts := by
  obtain ⟨ρ', more, proceeds, after, ready⟩ := h
  obtain ⟨_ | r, n'⟩ := r
  · exact ⟨ρ', more, proceeds, after, fun _ hx => absurd hx List.not_mem_nil⟩
  · have ok : Ends P ρ n (r, n') (OnOk good) :=
      ⟨ρ', more, proceeds, after, fun a ha => ready a (congrArg Poll.done ha)⟩
    exact ok.made fits

end

/-- What a program gets by using what it holds fits, and only closing fires signals of listeners. -/
theorem keeps_use (h : n.Fits ρ) {x : Product} (fits : x.Fits ρ n.outline) (u : Use) :
    Ends (fun f => u.Causes ρ x f) ρ n (u.run x n) FittingProducts := by
  have unmoved (P : Signal → Prop) : Ends P ρ n (([], n) : List Product × Network)
      FittingProducts := FiresOnly.ends (.refl h)
  have socket (s : Socket) (ρ : List Role) (n : Network) (_ : True) :
      (Product.muxed s).Fits ρ n.outline := trivial
  cases x with
  | packet s =>
      cases u with
      | close => exact FiresOnly.ends (.fire h (.inl (Signal.IsPlain.hasRole fits)))
      | _ => exact unmoved _
  | stream s =>
      cases u with
      | redial => exact (keeps_redialStream s ρ n h).made fun _ _ _ fits => fits
      | perform op => exact (fires_perform h fits op).ends
      | close => exact (fires_closeStream h fits).ends
      | _ => exact unmoved _
  | muxed s =>
      cases u with
      | openStream => exact (keeps_openStream s h).looked fun _ _ _ fits => fits
      | accept => exact (keeps_acceptStream s h).looked fun _ _ _ fits => fits
      | redial => exact (keeps_redialSocket s ρ n h).made socket
      | send payload =>
          obtain ⟨ρ', more, proceeds, fits, -⟩ := keeps_sendDatagram s payload ρ n h
          exact ⟨ρ', more, proceeds, fits, fun _ hx => absurd hx List.not_mem_nil⟩
      | receive =>
          obtain ⟨ρ', more, proceeds, fits, -⟩ := keeps_receiveDatagram s h
          exact ⟨ρ', more, proceeds, fits, fun _ hx => absurd hx List.not_mem_nil⟩
      | close => exact (fires_closeSocket h s).ends
      | perform op => exact unmoved _
  | streamListener l =>
      cases u with
      | accept => exact (keeps_acceptOnStreamListener h fits).looked fun _ _ _ fits => fits
      | close => exact (fires_closeStreamListener h fits).ends
      | _ => exact unmoved _
  | muxListener l =>
      cases u with
      | accept => exact (keeps_acceptOnMuxListener h fits).looked socket
      | close => exact (fires_closeMuxListener h fits).ends
      | _ => exact unmoved _

theorem keeps_follow (h : n.Fits ρ) (side : Side) (q : Producer) :
    Ends P ρ n (Use.made id (follow side q n)) FittingProducts := by
  cases side with
  | dial => exact (keeps_dial q ρ n h).made fun _ _ _ fits => fits
  | listen => exact (keeps_listen q ρ n h).made fun _ _ _ fits => fits

theorem keeps_newSession (h : n.Fits ρ) (capacity : Nat) (first second : Address) :
    Ends P ρ n (n.newSession capacity first second none) fun _ _ _ => True := by
  have base := h.withSignal .plain
  refine ⟨_, List.prefix_append ρ [.plain], .of_same rfl rfl rfl rfl,
    { base with session := fun s hs => ?_ }, trivial⟩
  obtain old | new := List.mem_append.1 hs
  · exact base.session s old
  · rw [List.mem_singleton.1 new]
    refine ⟨h.isPlain_next nofun, fun side x hx => ?_⟩
    cases side <;> cases hx

end Network

end TransportStack
