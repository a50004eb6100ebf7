import TransportStack.Proofs.Single.Accepted
import TransportStack.Proofs.Single.Dialed

/-!
What closing a socket does to the connections beneath. Its streams close, and nothing reaches their
connections: a link leads from a connection to its stream and not back, so that a connection whose
stream was handed out stays open until the stream itself is closed or given up. Only a connection
that an accepted socket still has is closed with the socket.
-/

namespace TransportStack

open Network

namespace Single

variable {past : List Happening} {n n' : Network}

/-- A stream that a step closes without closing its connection. Closing the stream itself then closes
the connection. -/
structure Severed (n n' : Network) (t : Stream) : Prop where
  closed : n'.isFired t.signal = true
  spared : ∀ s ∈ t.connection.signals, n'.isFired s = n.isFired s
  itself : ∀ s ∈ t.connection.signals, (closeStream t n').isFired s = true

/-- Firing a signal of a socket or of a stream does not reach the connections. -/
theorem isFired_outside {x : Stream} (outside : x.IsOutside (own past) n) {g : Signal}
    (owned : g.number ∈ own past) : ∀ s ∈ x.signals, (n.fire g).isFired s = n.isFired s := by
  intro s hs
  have apart : ¬g.lineage <:+ s.lineage := fun above =>
    (outside s hs g.number (Signals.number_mem_of_suffix above)).2 owned
  rw [Bool.eq_iff_iff]
  exact Signals.isFired_fire_iff.trans (or_iff_left apart)

theorem Sound.severed (sound : Sound past n) {t : Stream} (has : t ∈ handed past) {g : Signal}
    (owned : g.number ∈ own past) (closes : n'.signals = (n.fire g).signals)
    (closed : n'.isFired t.signal = true) : Severed n n' t where
  closed := closed
  spared s hs := by
    rw [Network.isFired, closes]
    exact isFired_outside (sound.outside_of_handed has) owned s hs
  itself s hs := by
    obtain ⟨⟨socket?, form⟩, -⟩ := sound.told.of_handed has
    refine (closeStream_firing t n').2 s ?_
    rw [form]
    exact List.mem_cons_of_mem _ hs

/-- Closing a socket closes every stream that it has handed out and leaves the connections of those
as they are. It closes the connection of an accepted socket exactly when nobody has got its
stream. -/
theorem closing_spares_connections (reached : Reached past n) :
    (∀ i g q t, .made i g q ∈ past → .arrived i (.ok t) ∈ past →
      Severed n (closeSocket (.dialed i) n) t) ∧
    ∀ i g x, .presented i g x ∈ past →
      (∀ t ∈ returned i past, Severed n (closeSocket (.accepted i) n) t) ∧
        (returned i past = [] →
          ∀ s ∈ x.signals, (closeSocket (.accepted i) n).isFired s = true) := by
  have sound := reached.sound
  refine ⟨fun i g q t made arrived => ?_, fun i g x presented => ⟨fun t ht => ?_, fun none => ?_⟩⟩
  · have closed := sound.closedDialed made
    refine sound.severed (mem_handed.2 ⟨_, arrived, rfl⟩) (own_made made) ?_ ?_
    · rw [sound.closeSocket_dialed made]
    · exact (closed.isFired_arrived (List.mem_cons_of_mem _ made)
        (List.mem_cons_of_mem _ arrived)).2 (.inl List.mem_cons_self)
  · have closed := sound.closedAccepted presented
    have looked := mem_returned.1 ht
    obtain ⟨m, eq, -, -, taken⟩ := sound.closeSocket_accepted presented
    rw [if_pos ((sound.taken_iff presented).2 (.inl (List.ne_nil_of_mem ht)))] at taken
    refine sound.severed (mem_handed.2 ⟨_, looked, rfl⟩) (own_presented presented) ?_ ?_
    · rw [eq, taken]
    · obtain ⟨g', y, presented', rfl⟩ := sound.told.grounded _ looked
      obtain ⟨rfl, -⟩ := sound.presented_unique presented presented'
      exact (closed.isFired_presented (List.mem_cons_of_mem _ presented)).2
        (.inl List.mem_cons_self)
  · exact (reached.step (.closeAccepted presented)).closes_connection
      (List.mem_cons_of_mem _ presented) List.mem_cons_self none

/-- A stream within the program, whose socket is closed. -/
theorem closing_spares_connections_within :
    let g : Signal := ⟨1, []⟩
    ∃ t n, Reached [.arrived 0 (.ok t), .elsewhere, .called 0, .made 0 g toHere] n ∧
      n.isFired t.connection.signal = false ∧
      (closeSocket (.dialed 0) n).isFired t.signal = true ∧
      (closeSocket (.dialed 0) n).isFired t.connection.signal = false := by
  intro g
  have socket : Reached [.made 0 g toHere] (reachable.withSocket toHere) :=
    .step reached_reachable (.made [] reachable toHere)
  have dialed := socket.dialed List.mem_cons_self rfl rfl
  let t : Stream := .single (.piped ((reachable.withSocket toHere).nextDialed
    ⟨"here", Implementation.bufferOf .empty⟩)) ⟨3, [1]⟩ (some 0)
  have severed := (closing_spares_connections dialed).1 0 g toHere t (by simp) List.mem_cons_self
  refine ⟨t, _, dialed, rfl, severed.closed, ?_⟩
  rw [severed.spared _ (Stream.signal_mem _)]
  rfl

/-- Two ends of a connection within the program. Closing the socket of the dialing end, or that of the
accepting end after its stream was handed out, leaves the connection open, and nothing happens on its
own then. Closing the stream closes the connection. -/
theorem closed_socket_leaves_connection_open :
    ∃ n₁ a n₂ b n₃ t n₄,
      dial (.onTop .streamSolution .nomux .empty toHere) reachable =
        (.ok (.muxed (.dialed 0)), n₁) ∧
      openStream (.dialed 0) n₁ = (.ready a, n₂) ∧
      acceptOnStreamListener (.memory 0) n₂ = (.ready b, n₃) ∧
      openStream (present b n₃).1 (present b n₃).2 = (.ready t, n₄) ∧
      (let n' := closeSocket (.dialed 0) n₄
      n'.isFired a.signal = true ∧ n'.isFired a.connection.signal = false ∧
        n'.isFired b.signal = false ∧ n'.step? = none ∧
        n'.release? (a.holdings ++ t.holdings ++ [.streamBinding 0]) = none ∧
        (closeStream a n').isFired b.signal = true) ∧
      (let n' := closeSocket (present b n₃).1 n₄
      n'.isFired t.signal = true ∧ n'.isFired t.connection.signal = false ∧
        n'.isFired a.signal = false ∧ n'.step? = none ∧
        n'.release? (a.holdings ++ t.holdings ++ [.streamBinding 0]) = none) := by
  refine ⟨_, _, _, _, _, _, _, rfl, rfl, rfl, rfl, ?_, ?_⟩
  · exact ⟨by rfl, by rfl, by rfl, by rfl, by rfl, by rfl⟩
  · exact ⟨by rfl, by rfl, by rfl, by rfl, by rfl⟩

end Single

end TransportStack
