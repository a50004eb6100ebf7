import TransportStack.Proofs.Single.Runs

/-!
Why signals fire. The signal of a socket that dials fires when the socket is closed, that of a stream
that it dialed also when the stream ends or follows its connection. An accepted socket and its stream
have one signal, which fires with the connection as well.
-/

namespace TransportStack

open Network

namespace Single

variable {past : List Happening} {n : Network}

namespace Told

variable (told : Told past)

include told

/-- The signal of a socket that dials is not the signal of a stream. -/
theorem signal_ne_of_made {i : Nat} {g : Signal} {q : Producer} (made : .made i g q ∈ past)
    {t : Stream} (has : t ∈ handed past) : t.signal ≠ g := by
  rintro rfl
  have owner {e : Happening} (he : e ∈ past) (owns : t.signal.number ∈ e.owns) :
      .made i t.signal q = e :=
    told.owner _ made e he _ (List.mem_singleton_self _) owns
  obtain ⟨j, arrived, -⟩ | ⟨j, -, presented, -⟩ := told.handed_cases has
  · cases owner arrived (List.mem_singleton_self _)
  · cases owner presented (List.mem_singleton_self _)

/-- Streams with the same signal are the same. -/
theorem handed_unique {t t' : Stream} (has : t ∈ handed past) (has' : t' ∈ handed past)
    (same : t.signal = t'.signal) : t = t' := by
  have owner {e e' : Happening} (he : e ∈ past) (he' : e' ∈ past)
      (owns : e.owns = [t.signal.number]) (owns' : e'.owns = [t'.signal.number]) : e = e' := by
    rw [← same] at owns'
    refine told.owner e he e' he' t.signal.number ?_ ?_
    · rw [owns]
      exact List.mem_singleton_self _
    · rw [owns']
      exact List.mem_singleton_self _
  obtain ⟨i, arrived, -⟩ | ⟨i, -, presented, form⟩ := told.handed_cases has
  all_goals obtain ⟨j, arrived', -⟩ | ⟨j, -, presented', form'⟩ := told.handed_cases has'
  · cases owner arrived arrived' rfl rfl
    rfl
  · cases owner arrived presented' rfl rfl
  · cases owner presented arrived' rfl rfl
  · have connection := owner presented presented' rfl rfl
    injection connection with _ signal connection
    rw [form, form', signal, connection]

theorem handed_of_ends {t : Stream} {e : Happening} (he : e ∈ past)
    (ends : e.Ends t ∨ e = .followed t) : t ∈ handed past := by
  have grounded := told.grounded e he
  obtain ends | rfl := ends
  · cases e with
    | closedStream s =>
        obtain rfl : s = t := ends
        exact grounded
    | used s op answer =>
        obtain ⟨rfl, -⟩ := ends
        exact grounded
    | released gone => exact grounded t ends
    | _ => exact False.elim ends
  · exact grounded

/-- What fires the signal of a stream that was handed out: the end of the stream, or closing an
accepted socket that has the same signal. -/
theorem fires_iff {t : Stream} (has : t ∈ handed past) {e : Happening} (he : e ∈ past) :
    e.Fires t.signal ↔
      (∃ s, e = .closed s t.signal) ∨ e.Ends t ∨ e = .followed t := by
  refine or_congr_right ⟨?_, fun ends => ⟨t, ends, rfl⟩⟩
  rintro ⟨t', ends, same⟩
  rwa [← told.handed_unique (told.handed_of_ends he ends) has same]

end Told

namespace Sound

variable (sound : Sound past n)

include sound

/-- A socket that dials closes when it is closed, and for no other reason. -/
theorem isFired_made {i : Nat} {g : Signal} {q : Producer} (made : .made i g q ∈ past) :
    n.isFired g = true ↔ .closed (.dialed i) g ∈ past := by
  obtain ⟨number, ancestors⟩ := g
  obtain rfl : ancestors = [] := sound.told.grounded _ made
  constructor
  · intro fired
    have self := (Signals.isFired_root_iff number).1 fired
    obtain ⟨e, he, ⟨s, rfl⟩ | ⟨t, ends, same⟩⟩ := sound.tallied.fired _ self (own_made made)
    · have owner {e : Happening} (he : e ∈ past) (owns : number ∈ e.owns) :
          .made i ⟨number, []⟩ q = e :=
        sound.told.owner _ made e he number (List.mem_singleton_self _) owns
      obtain ⟨j, q', rfl, made'⟩ | ⟨j, x, rfl, presented⟩ := sound.told.grounded _ he
      · cases owner made' (List.mem_singleton_self _)
        exact he
      · cases owner presented (List.mem_singleton_self _)
    · exact absurd same
        (sound.told.signal_ne_of_made made (sound.told.handed_of_ends he ends))
  · exact fun closed => sound.tallied.firing _ closed _ (.inl ⟨_, rfl⟩)

/-- A stream that a socket has dialed closes when it ends or follows its connection, and when the
socket is closed. -/
theorem isFired_arrived {i : Nat} {g : Signal} {q : Producer} (made : .made i g q ∈ past)
    {t : Stream} (arrived : .arrived i (.ok t) ∈ past) :
    n.isFired t.signal = true ↔
      .closed (.dialed i) g ∈ past ∨ ∃ e ∈ past, e.Ends t ∨ e = .followed t := by
  have has : t ∈ handed past := mem_handed.2 ⟨_, arrived, rfl⟩
  obtain ⟨⟨g', q', made', above⟩, -⟩ := sound.told.grounded _ arrived
  obtain ⟨rfl, -⟩ := sound.made_unique made made'
  have form : t.signal = ⟨t.signal.number, g.lineage⟩ := by rw [← above]
  have child := Signals.isFired_child_iff (g := n.signals) t.signal.number g
  rw [← form] at child
  constructor
  · intro fired
    obtain self | closed := child.1 fired
    · obtain ⟨e, he, fires⟩ := sound.tallied.fired _ self (sound.told.number_of_handed has)
      obtain ⟨s, rfl⟩ | ends := (sound.told.fires_iff has he).1 fires
      · obtain ⟨j, q'', rfl, made''⟩ | ⟨j, x, rfl, presented⟩ := sound.told.grounded _ he
        · exact absurd rfl (sound.told.signal_ne_of_made made'' has)
        · cases sound.told.owner _ arrived _ presented t.signal.number
            (List.mem_singleton_self _) (List.mem_singleton_self _)
      · exact .inr ⟨e, he, ends⟩
    · exact .inl ((sound.isFired_made made).1 closed)
  · rintro (closed | ⟨e, he, ends⟩)
    · exact child.2 (.inr ((sound.isFired_made made).2 closed))
    · exact sound.tallied.firing e he _ ((sound.told.fires_iff has he).2 (.inr ends))

/-- An accepted socket closes when it is closed, when its stream has ended, and with its
connection. -/
theorem isFired_presented {i : Nat} {g : Signal} {x : Stream} (presented : .presented i g x ∈ past) :
    n.isFired g = true ↔ .closed (.accepted i) g ∈ past ∨
      (∃ t ∈ returned i past, ∃ e ∈ past, e.Ends t) ∨ n.isFired x.signal = true := by
  have above : g.ancestors = x.signal.lineage := sound.told.grounded _ presented
  have form : g = ⟨g.number, x.signal.lineage⟩ := by rw [← above]
  have child := Signals.isFired_child_iff (g := n.signals) g.number x.signal
  rw [← form] at child
  have owner {e : Happening} (he : e ∈ past) (owns : g.number ∈ e.owns) :
      .presented i g x = e :=
    sound.told.owner _ presented e he _ (List.mem_singleton_self _) owns
  constructor
  · intro fired
    obtain self | closed := child.1 fired
    · obtain ⟨e, he, ⟨s, rfl⟩ | ⟨t, ends, rfl⟩⟩ :=
        sound.tallied.fired g self (own_presented presented)
      · obtain ⟨j, q, rfl, made⟩ | ⟨j, y, rfl, presented'⟩ := sound.told.grounded _ he
        · cases owner made (List.mem_singleton_self _)
        · cases owner presented' (List.mem_singleton_self _)
          exact .inl he
      · obtain ⟨j, arrived, -⟩ | ⟨j, looked, presented', -⟩ :=
          sound.told.handed_cases (sound.told.handed_of_ends he ends)
        · cases owner arrived (List.mem_singleton_self _)
        · cases owner presented' (List.mem_singleton_self _)
          obtain ends | rfl := ends
          · exact .inr (.inl ⟨t, mem_returned.2 looked, e, he, ends⟩)
          · exact .inr (.inr (sound.followed t he))
    · exact .inr (.inr closed)
  · rintro (closed | ⟨t, ht, e, he, ends⟩ | closed)
    · exact sound.tallied.firing _ closed g (.inl ⟨_, rfl⟩)
    · obtain ⟨g', y, presented', rfl⟩ := sound.told.grounded _ (mem_returned.1 ht)
      obtain ⟨rfl, -⟩ := sound.presented_unique presented presented'
      exact sound.tallied.firing e he g (.inr ⟨_, .inl ends, rfl⟩)
    · exact child.2 (.inr closed)

end Sound

end Single

end TransportStack
