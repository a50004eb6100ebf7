import TransportStack.Proofs.FanIn.Beside
import TransportStack.Proofs.Paired.Effects
import TransportStack.Proofs.Signals

/-!
Multiplexed connections within the program are apart from each other. What becomes of one of them
cannot be seen on the others, nor at the listener that has accepted it.
-/

namespace TransportStack

/-- Neither signal descends from the other one. -/
structure Signal.Apart (s t : Signal) : Prop where
  above : ¬s.lineage <:+ t.lineage
  below : ¬t.lineage <:+ s.lineage

namespace Session

variable {τ : Type} (s : Session τ) (h : Half)

theorem signal_acceptStream (g : Signals) : (s.acceptStream g h).2.signal = s.signal := by
  unfold acceptStream receive
  split
  · rfl
  · split <;> rfl

variable {s h} in
theorem acceptStream_failed {g : Signals} {e : TransportError}
    (failed : (s.acceptStream g h).1 = .failed e) : (s.acceptStream g h).2 = s := by
  unfold acceptStream receive at failed ⊢
  split
  · rfl
  · rename_i unfired
    rw [if_neg unfired] at failed
    split at failed
    · cases failed
    · rfl

theorem acceptStream_congr {g g' : Signals} (same : g.isFired s.signal = g'.isFired s.signal) :
    s.acceptStream g h = s.acceptStream g' h := by
  simp only [acceptStream, receive, same]

end Session

namespace Exchange

variable {τ : Type}

theorem accept_congr (x : Exchange τ) {g g' : Signals} {k : Nat}
    (same : ∀ s, x.signal? k = some s → g.isFired s = g'.isFired s) :
    x.accept g k = x.accept g' k := by
  unfold accept
  cases there : x.bindings[k]? with
  | none => rfl
  | some b =>
      have asked : x.signal? k = some b.signal := by
        rw [signal?, there]
        rfl
      simp only [same b.signal asked]

theorem accept_takes (x : Exchange τ) (g : Signals) (k : Nat) :
    (x.accept g k).2.signal? = x.signal? ∧ (x.accept g k).2.inbox k ⊆ x.inbox k ∧
      ∀ item, (x.accept g k).1 = .ready item → item ∈ x.inbox k := by
  cases there : x.signal? k with
  | none =>
      have refuses : x.accept g k = (.failed .closed, x) := by
        rw [accept, Option.map_eq_none_iff.1 there]
      rw [refuses]
      exact ⟨rfl, List.Subset.refl _, fun _ ready => by cases ready⟩
  | some s =>
      obtain ⟨-, taken⟩ | ⟨-, -, taken⟩ | ⟨-, item, rest, x', waiting, taken, -, signals, inbox⟩ :=
        x.accept_cases g there
      all_goals rw [taken]
      · exact ⟨rfl, List.Subset.refl _, fun _ ready => by cases ready⟩
      · exact ⟨rfl, List.Subset.refl _, fun _ ready => by cases ready⟩
      · refine ⟨signals, ?_, ?_⟩
        · rw [inbox, if_pos rfl, waiting]
          exact List.subset_cons_self _ _
        · intro found ready
          cases ready
          rw [waiting]
          exact List.mem_cons_self

end Exchange

namespace Network

open FanIn

theorem isFired_fire (n : Network) (s t : Signal) :
    (n.fire s).isFired t = (n.isFired t || s.lineage.isSuffixOf t.lineage) := by
  rw [Bool.eq_iff_iff, Bool.or_eq_true, List.isSuffixOf_iff_suffix]
  exact Signals.isFired_fire_iff

theorem isFired_fire_of_isFired {n : Network} (s t : Signal) (fired : n.isFired t = true) :
    (n.fire s).isFired t = true := by
  rw [isFired_fire, fired, Bool.true_or]

/-- Closing a stream only fires signals. -/
theorem closeStream_fires (s : Stream) (n : Network) :
    (closeStream s n).accepted = n.accepted ∧
      ∀ t, n.isFired t = true → (closeStream s n).isFired t = true := by
  induction s generalizing n with
  | piped s => exact ⟨rfl, isFired_fire_of_isFired s.signal⟩
  | recorded _ _ signal => exact ⟨rfl, isFired_fire_of_isFired signal⟩
  | single inner signal _ ih =>
      obtain ⟨same, more⟩ := ih (n.fire signal)
      exact ⟨same, fun t fired => more t (isFired_fire_of_isFired signal t fired)⟩

/-- Closing a socket fires its signal. -/
theorem isClosed_closeSocket (s : Socket) (n : Network) : (closeSocket s n).isClosed s = true := by
  have closed {n' : Network} {t : Signal} (kept : n'.socketSignal? s = some t)
      (fired : n'.isFired t = true) : n'.isClosed s = true := by
    rw [isClosed, kept, Option.map_some, Option.getD_some, fired]
  have fires (t : Signal) (n : Network) : (n.fire t).isFired t = true :=
    Signals.isFired_fire_self t
  cases s with
  | session i h =>
      cases there : n.sessions[i]? with
      | none => simp [closeSocket, isClosed, socketSignal?, there]
      | some s =>
          simp only [closeSocket, there]
          exact closed (congrArg (Option.map _) there) (fires s.signal n)
  | dialed i =>
      cases there : n.dialed[i]? with
      | none => simp [closeSocket, isClosed, socketSignal?, there]
      | some s =>
          simp only [closeSocket, there]
          exact closed (congrArg (Option.map _) there) (fires s.signal n)
  | recorded i =>
      cases there : n.recorded[i]? with
      | none => simp [closeSocket, isClosed, socketSignal?, there]
      | some s =>
          simp only [closeSocket, there]
          exact closed (congrArg (Option.map _) there) (fires s.signal n)
  | accepted i =>
      cases there : n.accepted[i]? with
      | none => simp [closeSocket, isClosed, socketSignal?, there]
      | some s =>
          obtain ⟨within, -⟩ := List.getElem?_eq_some_iff.1 there
          have kept : (n.accepted.set i { s with stream? := none })[i]? =
              some { s with stream? := none } := by
            rw [List.getElem?_set_self within]
          simp only [closeSocket, there]
          split
          · rename_i stream _
            obtain ⟨same, more⟩ := closeStream_fires stream
              { n.fire s.signal with accepted := n.accepted.set i { s with stream? := none } }
            refine closed (t := s.signal) ?_ (more _ (fires s.signal n))
            simp only [socketSignal?, same, kept, Option.map_some]
          · exact closed (congrArg (Option.map _) kept) (fires s.signal n)

/-- The connections that a listener within the program hands out, but for one. -/
def BesideSession (i : Nat) (s : Socket) : Prop := ∃ j, j ≠ i ∧ s = .session j .second

/-- Networks that are the same but for a session and its signal, as a demultiplexed listener sees
them. In the second one the session is open, and nothing arrives on it. -/
structure AlikeBut (binding : Nat) (shutdown : Signal) (i : Nat) (signal : Signal)
    (n n' : Network) : Prop where
  fired (s : Signal) : ¬signal.lineage <:+ s.lineage → n.isFired s = n'.isFired s
  unfired : n'.isFired signal = false
  shutdown : shutdown.Apart signal
  sockets : n.sockets = n'.sockets
  listener (s : Signal) : n'.sockets.signal? binding = some s → ¬signal.lineage <:+ s.lineage
  arrivals : ∀ s ∈ n'.sockets.inbox binding, BesideSession i s
  session : ∃ s, n.sessions[i]? = some s ∧ s.signal = signal
  quiet : ∃ s, n'.sessions[i]? = some s ∧ s.signal = signal ∧
    (s.halves.get .second).incoming = [] ∧ s.isDeserted .second = false
  sessions (j : Nat) : j ≠ i → n.sessions[j]? = n'.sessions[j]?
  apart (j : Nat) (s : Session Stream) : j ≠ i → n'.sessions[j]? = some s → s.signal.Apart signal

variable {n n' : Network} {binding i : Nat} {shutdown signal : Signal}

theorem isClosed_session {h : Half} {s : Session Stream} (there : n.sessions[i]? = some s) :
    n.isClosed (.session i h) = n.isFired s.signal := by
  simp only [isClosed, socketSignal?, there, Option.map_some, Option.getD_some]

theorem closeSocket_session {h : Half} {s : Session Stream} (there : n.sessions[i]? = some s) :
    closeSocket (.session i h) n = n.fire s.signal := by
  simp only [closeSocket, there]

theorem AlikeBut.fire (h : AlikeBut binding shutdown i signal n n') {s : Signal}
    (apart : s.Apart signal) : AlikeBut binding shutdown i signal (n.fire s) (n'.fire s) := by
  refine { h with fired := fun t away => ?_, unfired := ?_ }
  · rw [isFired_fire, isFired_fire, h.fired t away]
  · rw [isFired_fire, h.unfired, Bool.false_or, ← Bool.not_eq_true, List.isSuffixOf_iff_suffix]
    exact apart.above

theorem AlikeBut.close (h : AlikeBut binding shutdown i signal n n') :
    AlikeBut binding shutdown i signal (n.fire signal) n' := by
  refine { h with fired := fun t away => ?_ }
  rw [isFired_fire, h.fired t away, Bool.or_eq_left_iff_imp, List.isSuffixOf_iff_suffix]
  exact fun above => absurd above away

theorem getElem?_setSession (n : Network) (j k : Nat) (s : Session Stream) :
    (n.setSession j s).sessions[k]? =
      if k = j then n.sessions[k]?.map fun _ => s else n.sessions[k]? := by
  rw [setSession, List.getElem?_set']
  by_cases same : k = j
  · rw [if_pos same, if_pos same.symm]
    rfl
  · rw [if_neg same, if_neg (Ne.symm same)]

theorem AlikeBut.setSession (h : AlikeBut binding shutdown i signal n n') {j : Nat}
    (other : j ≠ i) {s : Session Stream} (apart : s.signal.Apart signal) :
    AlikeBut binding shutdown i signal (n.setSession j s) (n'.setSession j s) := by
  refine { h with
    session := ?_, quiet := ?_, sessions := fun k hk => ?_, apart := fun k t hk => ?_ }
  · rw [getElem?_setSession, if_neg other.symm]
    exact h.session
  · rw [getElem?_setSession, if_neg other.symm]
    exact h.quiet
  · rw [getElem?_setSession, getElem?_setSession, h.sessions k hk]
  · rw [getElem?_setSession]
    split
    · intro there
      obtain ⟨-, -, rfl⟩ := Option.map_eq_some_iff.1 there
      exact apart
    · exact h.apart k t hk

theorem AlikeBut.withSockets (h : AlikeBut binding shutdown i signal n n') {x : Exchange Socket}
    (same : x.signal? = n'.sockets.signal?) (fewer : x.inbox binding ⊆ n'.sockets.inbox binding) :
    AlikeBut binding shutdown i signal { n with sockets := x } { n' with sockets := x } :=
  { h with
    sockets := rfl
    listener := fun s found => h.listener s (same ▸ found)
    arrivals := fun s hs => h.arrivals s (fewer hs) }

variable (binding shutdown i signal)

variable {i} in
theorem isClosed_session_mono {h : Half} (n : Network) {n' : Network}
    (closed : n.isClosed (.session i h) = true)
    (kept : n'.sessions[i]?.map Session.signal = n.sessions[i]?.map Session.signal)
    (more : ∀ t, n.isFired t = true → n'.isFired t = true) :
    n'.isClosed (.session i h) = true := by
  have asked (m : Network) : m.socketSignal? (.session i h) = m.sessions[i]?.map Session.signal :=
    rfl
  rw [isClosed, asked] at closed ⊢
  rw [kept]
  cases found : n.sessions[i]?.map Session.signal with
  | none => rfl
  | some t =>
      rw [found] at closed
      exact more t closed

theorem lasting_session : (supply (acceptOnMuxListener (.memory binding)) shutdown).Lasting
    (.session i .second) (BesideSession i) where
  shut {n} closed :=
    isClosed_session_mono n closed rfl fun _ => isFired_fire_of_isFired shutdown _
  acceptConnection closed := closed
  acceptStream {n d} other closed := by
    obtain ⟨j, other, rfl⟩ := other
    change n.isClosed (.session i .second) = true at closed
    change (acceptStream (.session j .second) n).2.isClosed (.session i .second) = true
    cases there : n.sessions[j]? with
    | none => simpa only [Network.acceptStream, there] using closed
    | some s =>
        rw [acceptStream_session there]
        refine isClosed_session_mono n closed ?_ fun _ fired => fired
        rw [getElem?_setSession, if_neg other.symm]
  close {n d} other closed := by
    obtain ⟨j, -, rfl⟩ := other
    change n.isClosed (.session i .second) = true at closed
    change (closeSocket (.session j .second) n).isClosed (.session i .second) = true
    cases there : n.sessions[j]? with
    | none => simpa only [closeSocket, there] using closed
    | some s =>
        rw [closeSocket_session there]
        exact isClosed_session_mono n closed rfl fun _ => isFired_fire_of_isFired s.signal _

/-- What becomes of a session that a listener has accepted touches no other session. -/
theorem isolates_session : (supply (acceptOnMuxListener (.memory binding)) shutdown).Isolates
    (.session i .second) (BesideSession i) (AlikeBut binding shutdown i signal) where
  fires := isClosed_closeSocket _
  lasting := lasting_session binding i shutdown
  fails {n n' n₁ e} same failed := by
    obtain ⟨s, there, rfl⟩ := same.session
    change acceptStream (.session i .second) n = _ at failed
    rw [acceptStream_session there, Session.acceptStream_failed (congrArg Prod.fst failed),
      setSession_self there] at failed
    obtain rfl : n = n₁ := congrArg Prod.snd failed
    exact same
  closes {n n'} same := by
    obtain ⟨s, there, rfl⟩ := same.session
    change AlikeBut _ _ _ _ (closeSocket (.session i .second) n) n'
    rw [closeSocket_session there]
    exact same.close
  quiet {n n'} same := by
    obtain ⟨s, there, rfl, nothing, accompanied⟩ := same.quiet
    change (acceptStream (.session i .second) n').1 = _
    rw [acceptStream_session there]
    exact congrArg Prod.fst (Session.receive_waits same.unfired accompanied nothing)
  isShut same := same.fired _ same.shutdown.below
  shut same := same.fire same.shutdown
  connects {n n' d} same found := by
    change (n.sockets.accept n.signals binding).1 = .ready d at found
    rw [same.sockets] at found
    exact same.arrivals d ((Exchange.accept_takes _ _ _).2.2 d found)
  acceptConnection {n n'} same := by
    change (n.sockets.accept n.signals binding).1 = (n'.sockets.accept n'.signals binding).1 ∧
      AlikeBut _ _ _ _ { n with sockets := (n.sockets.accept n.signals binding).2 }
        { n' with sockets := (n'.sockets.accept n'.signals binding).2 }
    have both : n.sockets.accept n.signals binding = n'.sockets.accept n'.signals binding := by
      rw [same.sockets]
      exact Exchange.accept_congr _ fun s found => same.fired s (same.listener s found)
    obtain ⟨signals, fewer, -⟩ := n'.sockets.accept_takes n'.signals binding
    rw [both]
    exact ⟨rfl, same.withSockets signals fewer⟩
  acceptStream {n n' d} other same := by
    obtain ⟨j, other, rfl⟩ := other
    change (acceptStream (.session j .second) n).1 = (acceptStream (.session j .second) n').1 ∧
      AlikeBut _ _ _ _ (acceptStream (.session j .second) n).2
        (acceptStream (.session j .second) n').2
    cases there : n'.sessions[j]? with
    | none =>
        simp only [Network.acceptStream, there, (same.sessions j other).trans there, true_and]
        exact same
    | some s =>
        have apart := same.apart j s other there
        rw [acceptStream_session there, acceptStream_session ((same.sessions j other).trans there),
          Session.acceptStream_congr s .second (same.fired _ apart.below)]
        refine ⟨rfl, same.setSession other ?_⟩
        rw [Session.signal_acceptStream]
        exact apart
  isClosed {n n' d} other same := by
    obtain ⟨j, other, rfl⟩ := other
    change n.isClosed (.session j .second) = n'.isClosed (.session j .second)
    cases there : n'.sessions[j]? with
    | none =>
        simp only [Network.isClosed, socketSignal?, there, (same.sessions j other).trans there]
        rfl
    | some s =>
        rw [isClosed_session there, isClosed_session ((same.sessions j other).trans there)]
        exact same.fired _ (same.apart j s other there).below
  close {n n' d} other same := by
    obtain ⟨j, other, rfl⟩ := other
    change AlikeBut _ _ _ _ (closeSocket (.session j .second) n)
      (closeSocket (.session j .second) n')
    cases there : n'.sessions[j]? with
    | none =>
        simp only [closeSocket, there, (same.sessions j other).trans there]
        exact same
    | some s =>
        rw [closeSocket_session there, closeSocket_session ((same.sessions j other).trans there)]
        exact same.fire (same.apart j s other there)

end Network

end TransportStack
