import TransportStack.Proofs.Dictionary
import TransportStack.Proofs.FanIn.Line
import TransportStack.Proofs.Memory.Boards

/-!
What decides whether a thing can be dialed again, and that it stays. A socket that dials keeps its
dialer, and a session keeps how it was dialed; both are only ever added to. What waits for somebody
to accept it, at a listener, on a session or in the queue of a demultiplexed listener, can never be
dialed again.
-/

namespace TransportStack

def Stream.IsFinal (s : Stream) : Prop := s.canRedial = false

namespace Socket

/-- Whether a socket dials a connection for every stream. -/
def dials : Socket → Bool
  | dialed _ => true
  | session .. | accepted _ | recorded _ => false

/-- The sockets that listeners yield. -/
def IsServed : Socket → Prop
  | session _ .second | accepted _ => True
  | session _ .first | dialed _ | recorded _ => False

end Socket

/-- What waits on a session is of a kind. -/
def Session.Carries {τ : Type} (Q : τ → Prop) (s : Session τ) : Prop :=
  ∀ side, ∀ x ∈ (s.halves.get side).incoming, Q x

/-- What waits for the listeners is of a kind, and the table leads to a listener at the address. -/
structure Exchange.Carries {τ : Type} (Q : τ → Prop) (x : Exchange τ) : Prop where
  inbox : ∀ b ∈ x.bindings, ∀ item ∈ b.inbox, Q item
  routes : ∀ address i, x.table.get? address = some i →
    ∃ b, x.bindings[i]? = some b ∧ b.address = address

/-- The connections and the streams that a demultiplexed listener has are of kinds. -/
structure FanIn.Carries {κ σ : Type} (P : κ → Prop) (Q : σ → Prop) (f : FanIn κ σ) : Prop where
  line : ∀ x ∈ f.line, Q x
  workers : ∀ k ∈ f.workers, P k.2

namespace Session.Carries

variable {τ : Type} {Q : τ → Prop} {s s' : Session τ}

theorem of_subset (h : s.Carries Q)
    (fewer : ∀ side, (s'.halves.get side).incoming ⊆ (s.halves.get side).incoming) :
    s'.Carries Q :=
  fun side x hx => h side x (fewer side hx)

theorem opened (h : s.Carries Q) (side : Half) {peer : τ} (hp : Q peer) :
    (s.opened side peer).Carries Q := by
  intro side' x hx
  have known : x ∈ (s.halves.get side').incoming ∨ x = peer := by
    cases side <;> cases side' <;>
      simp [Session.opened, Session.takeNumber, Session.sendStream, Session.modify,
        Halves.modify, Halves.get, Half.other] at hx ⊢ <;>
      first | exact .inl hx | exact hx
  obtain old | rfl := known
  · exact h side' x old
  · exact hp

end Session.Carries

namespace Exchange.Carries

variable {τ : Type} {Q : τ → Prop} {x : Exchange τ} (h : x.Carries Q)

include h

theorem modifyInbox (i : Nat) {g : List τ → List τ}
    (kind : ∀ b ∈ x.bindings, ∀ item ∈ g b.inbox, Q item) : (x.modifyInbox i g).Carries Q where
  inbox b hb item hi := by
    obtain ⟨b', hb', -, same | changed⟩ := Exchange.mem_modifyInbox hb
    · exact h.inbox b' hb' item (same ▸ hi)
    · exact kind b' hb' item (changed ▸ hi)
  routes address j found := by
    obtain ⟨b, hb, there⟩ := h.routes address j found
    refine ⟨if i = j then { b with inbox := g b.inbox } else b, ?_, ?_⟩
    · rw [Exchange.getElem?_modifyInbox, hb]
      rfl
    · split <;> exact there

theorem deliver (i : Nat) {item : τ} (hi : Q item) : (x.deliver i item).Carries Q := by
  refine h.modifyInbox i fun b hb it hit => ?_
  obtain hit | hit := List.mem_append.1 hit
  · exact h.inbox b hb it hit
  · rw [List.mem_singleton.1 hit]
    exact hi

theorem drop (i : Nat) : (x.drop i).Carries Q where
  inbox b hb item hi := by
    obtain ⟨b', hb', -, same⟩ := Exchange.mem_drop hb
    exact h.inbox b' hb' item (same ▸ hi)
  routes address j found := by
    obtain ⟨kept, other⟩ := Option.mem_filter_iff.1 ((Dict.get?_filter ..).symm.trans found)
    obtain ⟨b, hb, there⟩ := h.routes address j kept
    exact ⟨b, (List.getElem?_modify_ne _ _ (bne_iff_ne.1 other).symm).trans hb, there⟩

theorem listening (address : String) (signal : Signal) :
    (x.listening address signal).Carries Q where
  inbox b hb item hi := by
    obtain old | new := List.mem_append.1 hb
    · exact h.inbox b old item hi
    · rw [List.mem_singleton.1 new] at hi
      exact absurd hi List.not_mem_nil
  routes address' i found := by
    rw [show (x.listening address signal).table.get? address' = _ from
      Dict.get?_insert x.table address _] at found
    by_cases same : address' = address
    · rw [if_pos same] at found
      cases found
      exact ⟨_, List.getElem?_concat_length, same.symm⟩
    · rw [if_neg same] at found
      obtain ⟨b, hb, there⟩ := h.routes address' i found
      exact ⟨b, (List.getElem?_append_left (List.getElem?_eq_some_iff.1 hb).1).trans hb, there⟩

theorem unbind (i : Nat) : (x.unbind i).Carries Q where
  inbox := h.inbox
  routes address j found := by
    rw [Exchange.unbind, Dict.get?_filter] at found
    exact h.routes address j (Option.mem_filter_iff.1 found).1

theorem clear : x.clear.Carries Q where
  inbox := h.inbox
  routes _ _ found := nomatch found

/-- Accepting yields something of what waits, or leaves everything as it is. -/
theorem accept (g : Signals) (i : Nat) :
    (x.accept g i).2.Carries Q ∧ ∀ item, (x.accept g i).1 = .done (.ok item) → Q item := by
  unfold Exchange.accept
  cases hb : x.bindings[i]? with
  | none => exact ⟨h, nofun⟩
  | some b =>
      simp only
      split
      · exact ⟨h, nofun⟩
      · split
        · exact ⟨h, nofun⟩
        · rename_i item rest waiting
          have all : ∀ it ∈ item :: rest, Q it := waiting ▸ h.inbox b (List.mem_of_getElem? hb)
          have left : (x.modifyInbox i fun _ => rest).Carries Q :=
            h.modifyInbox i fun _ _ it hit => all it (List.mem_cons_of_mem item hit)
          refine ⟨left, ?_⟩
          rintro _ ⟨⟩
          exact all item List.mem_cons_self

end Exchange.Carries

namespace FanIn.Carries

variable {κ σ : Type} {P : κ → Prop} {Q : σ → Prop} {f : FanIn κ σ}

theorem start (capacity : Nat) : (FanIn.start capacity : FanIn κ σ).Carries P Q :=
  ⟨fun _ h => absurd h List.not_mem_nil, fun _ h => absurd h List.not_mem_nil⟩

variable (h : f.Carries P Q)

include h

theorem stopAccepting : f.stopAccepting.Carries P Q := ⟨h.line, h.workers⟩

theorem assign {c : κ} (hc : P c) : (f.assign c).Carries P Q := by
  refine ⟨h.line, fun k hk => ?_⟩
  obtain old | new := List.mem_append.1 hk
  · exact h.workers k old
  · rw [List.mem_singleton.1 new]
    exact hc

theorem offer (worker : Nat) {s : σ} (hs : Q s) : (f.offer worker s).Carries P Q := by
  refine ⟨fun x hx => ?_, ?_⟩
  · obtain old | rfl := FanIn.mem_line_offer hx
    · exact h.line x old
    · exact hs
  · rw [(f.workers_of_offer worker s).1]
    exact h.workers

theorem leave (worker : Nat) : (f.leave worker).Carries P Q :=
  ⟨fun x hx => h.line x (f.line_leave_subset worker hx),
    fun k hk => h.workers k (List.filter_subset_self _ hk)⟩

theorem take? {f' : FanIn κ σ} {s : σ} (taken : f.take? = some (s, f')) :
    f'.Carries P Q ∧ Q s := by
  have whole := FanIn.line_of_take? taken
  refine ⟨⟨fun x hx => h.line x ?_, ?_⟩, h.line s ?_⟩
  · rw [whole]
    exact List.mem_cons_of_mem _ hx
  · rw [(FanIn.workers_of_take? taken).1]
    exact h.workers
  · rw [whole]
    exact List.mem_cons_self

theorem connection {worker : Nat} {c : κ} (found : f.connection? worker = some c) : P c := by
  obtain ⟨k, hk, rfl⟩ := Option.map_eq_some_iff.1 found
  exact h.workers k (List.mem_of_find?_eq_some hk)

end FanIn.Carries

namespace Network

/-- How the sockets that dial were made, and their signals. -/
def outlets (n : Network) : List (Producer × Signal) := n.dialed.map fun s => (s.dialer, s.signal)

/-- How the sessions were dialed, those that were, and their signals. -/
def origins (n : Network) : List (Option MemoryDial × Signal) :=
  n.sessions.map fun s => (s.dial?, s.signal)

/-- What waits to be accepted cannot be dialed again. -/
structure OneWay (n : Network) : Prop where
  sessions : ∀ s ∈ n.sessions, s.Carries Stream.IsFinal
  streams : n.streams.Carries Stream.IsFinal
  sockets : n.sockets.Carries Socket.IsServed
  demuxers : ∀ d ∈ n.demuxers, d.fan.Carries Socket.IsServed Stream.IsFinal

/-- What an operation leaves as it was. -/
structure Retains (n n' : Network) : Prop where
  outlets : n.outlets <+: n'.outlets
  origins : n.origins <+: n'.origins
  rotations : n.rotations.length ≤ n'.rotations.length

namespace Retains

variable {n n₁ n' : Network}

theorem of_same (dialed : n'.outlets = n.outlets) (sessions : n'.origins = n.origins)
    (rotations : n'.rotations.length = n.rotations.length) : n.Retains n' :=
  ⟨dialed ▸ List.prefix_rfl, sessions ▸ List.prefix_rfl, Nat.le_of_eq rotations.symm⟩

theorem refl (n : Network) : n.Retains n := of_same rfl rfl rfl

theorem trans (h : n.Retains n₁) (h' : n₁.Retains n') : n.Retains n' :=
  ⟨h.outlets.trans h'.outlets, h.origins.trans h'.origins, Nat.le_trans h.rotations h'.rotations⟩

theorem outlet (h : n.Retains n') {i : Nat} {o : Producer × Signal} (ho : n.outlets[i]? = some o) :
    n'.outlets[i]? = some o := by
  obtain ⟨others, same⟩ := h.outlets
  rw [← same, List.getElem?_append_left (List.getElem?_eq_some_iff.1 ho).1, ho]

theorem origin (h : n.Retains n') {i : Nat} {o : Option MemoryDial × Signal}
    (ho : n.origins[i]? = some o) : n'.origins[i]? = some o := by
  obtain ⟨others, same⟩ := h.origins
  rw [← same, List.getElem?_append_left (List.getElem?_eq_some_iff.1 ho).1, ho]

end Retains

/-- A new session comes after those that are there. -/
theorem Retains.of_newSession {n n' : Network} {s : Session Stream}
    (sessions : n'.sessions = n.sessions ++ [s]) (dialed : n'.outlets = n.outlets)
    (rotations : n'.rotations = n.rotations) :
    n.Retains n' ∧ n'.origins[n.sessions.length]? = some (s.dial?, s.signal) := by
  have origins : n'.origins = n.origins ++ [(s.dial?, s.signal)] := by
    rw [Network.origins, sessions, List.map_append]
    rfl
  refine ⟨⟨dialed ▸ List.prefix_rfl, origins ▸ List.prefix_append _ _, ?_⟩, ?_⟩
  · rw [rotations]
  · have length : n.sessions.length = n.origins.length := (List.length_map _).symm
    rw [origins, length, List.getElem?_concat_length]

/-- Replacing a session by one that was dialed in the same way. -/
theorem origins_set {n : Network} {i : Nat} {s s' : Session Stream}
    (hs : n.sessions[i]? = some s) (dial : s'.dial? = s.dial?) (signal : s'.signal = s.signal) :
    { n with sessions := n.sessions.set i s' }.origins = n.origins := by
  obtain ⟨within, rfl⟩ := List.getElem?_eq_some_iff.1 hs
  refine List.ext_getElem? fun j => ?_
  simp only [origins, List.getElem?_map, List.getElem?_set]
  by_cases here : i = j
  · subst here
    simp [within, dial, signal]
  · simp [here]

/-- A socket that dials, if it is there. -/
theorem outlets_cell {n : Network} {i : Nat} (within : i < n.outlets.length) :
    ∃ cell, n.dialed[i]? = some cell ∧ n.outlets[i]? = some (cell.dialer, cell.signal) := by
  rw [outlets, List.length_map] at within
  refine ⟨_, List.getElem?_eq_getElem within, ?_⟩
  rw [outlets, List.getElem?_map, List.getElem?_eq_getElem within]
  rfl

theorem outlets_modify (n : Network) (i : Nat) (address : Option Address) :
    { n with dialed := n.dialed.modify i fun s => { s with remote? := address } }.outlets =
      n.outlets := by
  refine List.ext_getElem? fun j => ?_
  rw [outlets, outlets, List.getElem?_map, List.getElem?_map, map_getElem?_modify]
  exact fun _ => rfl

theorem OneWay.withSession {n : Network} (h : n.OneWay) {i : Nat} {s' : Session Stream}
    (carries : s'.Carries Stream.IsFinal) :
    { n with sessions := n.sessions.set i s' }.OneWay := by
  refine { h with sessions := fun t ht => ?_ }
  obtain old | rfl := List.mem_or_eq_of_mem_set ht
  · exact h.sessions t old
  · exact carries

theorem OneWay.withNewSession {n : Network} (h : n.OneWay) (capacity : Nat) (signal : Signal)
    (dialing accepting : Address) (dial? : Option MemoryDial) :
    { n with sessions :=
      n.sessions ++ [Session.start capacity signal dialing accepting dial?] }.OneWay := by
  refine { h with sessions := fun t ht => ?_ }
  obtain old | new := List.mem_append.1 ht
  · exact h.sessions t old
  · rw [List.mem_singleton.1 new]
    intro side x hx
    cases side <;> exact absurd hx List.not_mem_nil

/-- Whether the connection that a demultiplexed dialer has at hand dials one for every stream. -/
def atHand (n : Network) (cell : Nat) : Bool :=
  match n.rotations[cell]?.bind (·.connection) with
  | some c => c.dials
  | none => false

theorem memoryDial?_first (n : Network) (i : Nat) :
    n.memoryDial? (.session i .first) = n.origins[i]?.bind Prod.fst := by
  simp only [memoryDial?, origins, List.getElem?_map]
  cases n.sessions[i]? <;> rfl

/-- Only the dialing half of a session that was dialed keeps how it was dialed. -/
theorem memoryDial?_eq_some {n : Network} {s : Socket} {d : MemoryDial}
    (dialed : n.memoryDial? s = some d) :
    ∃ i g, s = .session i .first ∧ n.origins[i]? = some (some d, g) := by
  cases s with
  | session i side =>
      cases side with
      | first =>
          rw [memoryDial?_first, Option.bind_eq_some_iff] at dialed
          obtain ⟨⟨_, g⟩, there, rfl⟩ := dialed
          exact ⟨i, g, rfl, there⟩
      | second => cases dialed
  | dialed | accepted | recorded => cases dialed

theorem socketSignal?_session (n : Network) (i : Nat) (side : Half) :
    n.socketSignal? (.session i side) = n.origins[i]?.map Prod.snd := by
  simp only [socketSignal?, origins, List.getElem?_map, Option.map_map]
  rfl

theorem socketSignal?_dialed (n : Network) (i : Nat) :
    n.socketSignal? (.dialed i) = n.outlets[i]?.map Prod.snd := by
  simp only [socketSignal?, outlets, List.getElem?_map, Option.map_map]
  rfl

end Network

namespace Product

/-- What a stream or a socket refers to is there. -/
def Stands (n : Network) : Product → Prop
  | stream (.single _ _ (some i)) | muxed (.dialed i) => i < n.outlets.length
  | muxed (.session i .first) => i < n.origins.length
  | _ => True

/-- Whether a thing can be dialed again. -/
def canRedial (n : Network) : Product → Bool
  | stream s => s.canRedial
  | muxed s => n.canRedial s
  | packet _ | streamListener _ | muxListener _ => false

/-- A thing that is there, and can be dialed again or not. -/
structure Flagged (b : Bool) (n : Network) (x : Product) : Prop where
  stands : x.Stands n
  flag : x.canRedial n = b

theorem Stands.mono {n n' : Network} {x : Product} (h : x.Stands n) (r : n.Retains n') :
    x.Stands n' := by
  have outlets := r.outlets.length_le
  have origins := r.origins.length_le
  cases x with
  | stream s =>
      cases s with
      | single inner signal socket? =>
          cases socket? with
          | some i => exact Nat.lt_of_lt_of_le h outlets
          | none => trivial
      | piped | recorded => trivial
  | muxed s =>
      cases s with
      | dialed i => exact Nat.lt_of_lt_of_le h outlets
      | session i side =>
          cases side with
          | first => exact Nat.lt_of_lt_of_le h origins
          | second => trivial
      | accepted | recorded => trivial
  | packet | streamListener | muxListener => trivial

/-- Whether a thing can be dialed again is settled once and for all. -/
theorem Flagged.mono {b : Bool} {n n' : Network} {x : Product} (h : x.Flagged b n)
    (r : n.Retains n') : x.Flagged b n' := by
  refine ⟨h.stands.mono r, Eq.trans ?_ h.flag⟩
  have stands := h.stands
  cases x with
  | muxed s =>
      cases s with
      | session i side =>
          cases side with
          | first =>
              have there := List.getElem?_eq_getElem (l := n.origins) stands
              simp only [canRedial, Network.canRedial, Network.memoryDial?_first, there,
                r.origin there]
          | second => rfl
      | dialed | accepted | recorded => rfl
  | stream | packet | streamListener | muxListener => rfl

end Product

end TransportStack
