import TransportStack.Proofs.FanIn.Line
import TransportStack.Proofs.Memory.Boards
import TransportStack.Proofs.Signals

/-!
What signals are for. A signal has a role from the moment at which it is made, and what the network
keeps fits the roles: connections and their streams, single streams, listeners within the program
and demultiplexed listeners have signals of their own. So no stream closes when a listener is closed
or shuts down, and a stream that somebody holds does not close when a single stream is given up.
-/

namespace TransportStack

inductive Role
  /-- The signal of a connection, or of a stream on it. -/
  | plain
  /-- The signal of the only stream of a connection. -/
  | single
  /-- The signal of a listener that is not demultiplexed. -/
  | listening
  | shutdown (demuxer : Nat)

variable {ρ ρ' : List Role}

theorem Role.mono {k : Nat} {r : Role} (more : ρ <+: ρ') (h : ρ[k]? = some r) :
    ρ'[k]? = some r := by
  obtain ⟨others, rfl⟩ := more
  rw [List.getElem?_append_left (List.getElem?_eq_some_iff.1 h).1, h]

namespace Signal

/-- The roles of all signals are listed by their numbers. -/
def HasRole (ρ : List Role) (s : Signal) (r : Role) : Prop := ρ[s.number]? = some r

def IsPlain (ρ : List Role) (s : Signal) : Prop := ∀ k ∈ s.lineage, ρ[k]? = some .plain

theorem IsPlain.mono {s : Signal} (h : s.IsPlain ρ) (more : ρ <+: ρ') : s.IsPlain ρ' :=
  fun k hk => Role.mono more (h k hk)

theorem IsPlain.hasRole {s : Signal} (h : s.IsPlain ρ) : s.HasRole ρ .plain :=
  h s.number List.mem_cons_self

end Signal

namespace Stream

/-- The signals that close a stream: its own, and that of a stream inside. -/
def signals : Stream → List Signal
  | piped s => [s.signal]
  | single inner signal _ => signal :: inner.signals
  | recorded _ _ signal => [signal]

theorem signal_mem (s : Stream) : s.signal ∈ s.signals := by
  cases s <;> exact List.mem_cons_self

/-- A single stream follows the stream inside, or connections. -/
def Fits (ρ : List Role) : Stream → Prop
  | piped s => s.signal.IsPlain ρ
  | single inner signal _ =>
      signal.HasRole ρ .single ∧ inner.Fits ρ ∧
        (signal.ancestors = inner.signal.lineage ∨ ∀ k ∈ signal.ancestors, ρ[k]? = some .plain)
  | recorded _ _ signal => signal.IsPlain ρ

theorem Fits.mono {s : Stream} (h : s.Fits ρ) (more : ρ <+: ρ') : s.Fits ρ' := by
  induction s with
  | piped s => exact Signal.IsPlain.mono h more
  | single inner signal socket? ih =>
      obtain ⟨role, inside, above⟩ := h
      exact ⟨Role.mono more role, ih inside, above.imp_right fun h k hk => Role.mono more (h k hk)⟩
  | recorded remote number signal => exact Signal.IsPlain.mono h more

theorem Fits.role {s : Stream} (h : s.Fits ρ) {g : Signal} (hg : g ∈ s.signals) {k : Nat}
    (hk : k ∈ g.lineage) : ρ[k]? = some .plain ∨ ρ[k]? = some .single := by
  induction s generalizing g with
  | piped s =>
      cases List.mem_singleton.1 hg
      exact .inl (h k hk)
  | single inner signal socket? ih =>
      obtain ⟨role, inside, above⟩ := h
      obtain rfl | hg := List.mem_cons.1 hg
      · obtain rfl | hk := List.mem_cons.1 hk
        · exact .inr role
        · obtain same | plain := above
          · exact ih inside inner.signal_mem (same ▸ hk)
          · exact .inl (plain k hk)
      · exact ih inside hg hk
  | recorded remote number signal =>
      cases List.mem_singleton.1 hg
      exact .inl (h k hk)

/-- Neither closing nor shutting down a listener closes a stream. -/
theorem Fits.spared {s : Stream} (h : s.Fits ρ) {g : Signal} (hg : g ∈ s.signals) {f : Signal}
    (role : f.HasRole ρ .listening ∨ ∃ i, f.HasRole ρ (.shutdown i)) :
    ¬f.lineage <:+ g.lineage := by
  intro above
  have mine := h.role hg (above.subset List.mem_cons_self)
  obtain role | ⟨i, role⟩ := role
  all_goals
    rw [Signal.HasRole] at role
    simp [role] at mine

/-- A single stream that closes another stream is the same or inside, so that it is held as long as
the other one. -/
theorem Fits.single_held {s : Stream} (h : s.Fits ρ) {g : Signal} (hg : g ∈ s.signals) {f : Signal}
    (role : f.HasRole ρ .single) (above : f.lineage <:+ g.lineage) :
    .single f ∈ s.holdings := by
  have apart {k : Nat} (hk : ρ[k]? = some .plain) : k ≠ f.number := by
    rintro rfl
    simp [Signal.HasRole, hk] at role
  induction s generalizing g with
  | piped s =>
      cases List.mem_singleton.1 hg
      exact absurd rfl (apart (h f.number (above.subset List.mem_cons_self)))
  | single inner signal socket? ih =>
      obtain ⟨-, inside, follows⟩ := h
      obtain rfl | hg := List.mem_cons.1 hg
      · obtain same | above := List.suffix_cons_iff.1 above
        · rw [Signal.eq_of_lineage same]
          exact List.mem_cons_self
        · obtain same | plain := follows
          · have held := ih inside inner.signal_mem (same ▸ above)
            exact List.mem_cons_of_mem _ (List.mem_append_right _ held)
          · exact absurd rfl (apart (plain f.number (above.subset List.mem_cons_self)))
      · exact List.mem_cons_of_mem _ (List.mem_append_right _ (ih inside hg above))
  | recorded remote number signal =>
      cases List.mem_singleton.1 hg
      exact absurd rfl (apart (h f.number (above.subset List.mem_cons_self)))

end Stream

/-- The shutdown signals of all demultiplexed listeners, each with the listener that feeds it. -/
def Network.outline (n : Network) : List (Signal × MuxListener) :=
  n.demuxers.map fun d => (d.shutdown, d.listener)

mutual

def StreamListener.Fits (ρ : List Role) (outline : List (Signal × MuxListener)) :
    StreamListener → Prop
  | .memory _ => True
  | .gathered i shutdown inner => outline[i]? = some (shutdown, inner) ∧ inner.Fits ρ outline
  | .idle signal => signal.HasRole ρ .listening

def MuxListener.Fits (ρ : List Role) (outline : List (Signal × MuxListener)) : MuxListener → Prop
  | .memory _ => True
  | .single inner => inner.Fits ρ outline
  | .idle signal => signal.HasRole ρ .listening

end

section

variable {outline outline' : List (Signal × MuxListener)}

mutual

theorem StreamListener.Fits.mono {l : StreamListener} (h : l.Fits ρ outline) (more : ρ <+: ρ')
    (longer : outline <+: outline') : l.Fits ρ' outline' :=
  match l with
  | .memory _ => trivial
  | .gathered i shutdown inner => by
      obtain ⟨there, inside⟩ := h
      refine ⟨?_, inside.mono more longer⟩
      obtain ⟨others, rfl⟩ := longer
      rw [List.getElem?_append_left (List.getElem?_eq_some_iff.1 there).1, there]
  | .idle _ => Role.mono more h

theorem MuxListener.Fits.mono {l : MuxListener} (h : l.Fits ρ outline) (more : ρ <+: ρ')
    (longer : outline <+: outline') : l.Fits ρ' outline' :=
  match l with
  | .memory _ => trivial
  | .single inner => StreamListener.Fits.mono (l := inner) h more longer
  | .idle _ => Role.mono more h

end

end

def Product.Fits (ρ : List Role) (outline : List (Signal × MuxListener)) : Product → Prop
  | packet s => s.signal.IsPlain ρ
  | stream s => s.Fits ρ
  | muxed _ => True
  | streamListener l => l.Fits ρ outline
  | muxListener l => l.Fits ρ outline

theorem Product.Fits.mono {outline outline' : List (Signal × MuxListener)} {x : Product}
    (h : x.Fits ρ outline) (more : ρ <+: ρ') (longer : outline <+: outline') :
    x.Fits ρ' outline' := by
  cases x with
  | packet s => exact Signal.IsPlain.mono h more
  | stream s => exact Stream.Fits.mono h more
  | muxed s => trivial
  | streamListener l => exact StreamListener.Fits.mono h more longer
  | muxListener l => exact MuxListener.Fits.mono h more longer

/-- All that the network keeps fits the roles of the signals made so far. -/
structure Network.Fits (ρ : List Role) (n : Network) : Prop where
  count : n.signals.count = ρ.length
  session : ∀ s ∈ n.sessions, s.signal.IsPlain ρ ∧ ∀ h, ∀ x ∈ (s.halves.get h).incoming, x.Fits ρ
  dialed : ∀ s ∈ n.dialed, s.signal.IsPlain ρ
  recorded : ∀ s ∈ n.recorded, s.signal.IsPlain ρ
  accepted : ∀ s ∈ n.accepted, s.signal.HasRole ρ .single ∧
    ∀ x ∈ s.stream?, x.Fits ρ ∧ s.signal.ancestors = x.signal.lineage
  streamBinding : ∀ b ∈ n.streams.bindings,
    b.signal.HasRole ρ .listening ∧ ∀ x ∈ b.inbox, x.Fits ρ
  socketBinding : ∀ b ∈ n.sockets.bindings, b.signal.HasRole ρ .listening
  link : ∀ l ∈ n.links, l.1.HasRole ρ .single
  outline : ∀ i (o : Signal × MuxListener), n.outline[i]? = some o →
    o.1.HasRole ρ (.shutdown i) ∧ o.2.Fits ρ n.outline
  line : ∀ d ∈ n.demuxers, ∀ x ∈ d.fan.line, x.Fits ρ

namespace Network.Fits

variable {n : Network} (h : n.Fits ρ)

include h

theorem withSignal (r : Role) : n.withSignal.Fits (ρ ++ [r]) := by
  have more : ρ <+: ρ ++ [r] := List.prefix_append ρ [r]
  exact {
    count := by
      rw [List.length_append, ← h.count]
      rfl
    session := fun s hs =>
      ⟨(h.session s hs).1.mono more, fun side x hx => ((h.session s hs).2 side x hx).mono more⟩
    dialed := fun s hs => (h.dialed s hs).mono more
    recorded := fun s hs => (h.recorded s hs).mono more
    accepted := fun s hs =>
      ⟨Role.mono more (h.accepted s hs).1, fun x hx => ((h.accepted s hs).2 x hx).imp_left
        fun inside => inside.mono more⟩
    streamBinding := fun b hb =>
      ⟨Role.mono more (h.streamBinding b hb).1,
        fun x hx => ((h.streamBinding b hb).2 x hx).mono more⟩
    socketBinding := fun b hb => Role.mono more (h.socketBinding b hb)
    link := fun l hl => Role.mono more (h.link l hl)
    outline := fun i o ho => by
      obtain ⟨role, fits⟩ := h.outline i o ho
      exact ⟨Role.mono more role, fits.mono more List.prefix_rfl⟩
    line := fun d hd x hx => (h.line d hd x hx).mono more }

/-- The signal that is made next has the role that it is given. -/
theorem role_next (r : Role) (ancestors : List Nat) :
    (n.nextSignal ancestors).HasRole (ρ ++ [r]) r := by
  rw [Signal.HasRole, Network.nextSignal, h.count, List.getElem?_concat_length]

theorem isPlain_next {ancestors : List Nat} (plain : ∀ k ∈ ancestors, ρ[k]? = some .plain) :
    (n.nextSignal ancestors).IsPlain (ρ ++ [.plain]) := by
  intro k hk
  obtain rfl | hk := List.mem_cons.1 hk
  · exact h.role_next .plain ancestors
  · exact Role.mono (List.prefix_append _ _) (plain k hk)

end Network.Fits

end TransportStack
