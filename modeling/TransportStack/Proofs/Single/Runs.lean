import TransportStack.Proofs.Single.Sound

/-!
Whatever happens to sockets without multiplexing, they stay as the history tells, and what has fired
stays fired. The network's own step, which closes a single stream whose connection is closed, is one
of the steps of the sockets or leaves them alone.
-/

namespace TransportStack

open Network
open Scenario (ByteOp ByteResult)

namespace Single

variable {past : List Happening} {n n' : Network} {e : Happening}

theorem withSocket_of_dial {c : Category} {p : Parameters} {q : Producer} {i : Nat}
    (dialed : Network.dial (.onTop c .nomux p q) n = (.ok (.muxed (.dialed i)), n')) :
    i = n.dialed.length ∧ n' = n.withSocket q := by
  have reduced : Network.dial (.onTop c .nomux p q) n =
      (.ok (.muxed (.dialed n.dialed.length)), n.withSocket q) := rfl
  cases reduced.symm.trans dialed
  exact ⟨rfl, rfl⟩

theorem redialSocket_eq {j : Nat} {s : DialedSocket} (there : n.dialed[j]? = some s) :
    redialSocket (.dialed j) n = (.ok (.dialed n.dialed.length), n.withSocket s.dialer) := by
  rw [redialSocket, get_bind]
  simp only [there]
  rfl

theorem withSocket_of_redial {i j : Nat}
    (redialed : redialSocket (.dialed j) n = (.ok (.dialed i), n')) :
    ∃ q, i = n.dialed.length ∧ n' = n.withSocket q := by
  cases there : n.dialed[j]? with
  | none =>
      rw [redialSocket, get_bind] at redialed
      simp only [there] at redialed
      cases redialed
  | some s =>
      cases (redialSocket_eq there).symm.trans redialed
      exact ⟨s.dialer, rfl, rfl⟩

/-- Dialing a socket can happen at any time. -/
theorem Step.made (past : List Happening) (n : Network) (q : Producer) :
    Step past n (.made n.dialed.length (n.nextSignal []) q) (n.withSocket q) := by
  have dialed : Network.dial (.onTop .streamSolution .nomux .empty q) n =
      (.ok (.muxed (.dialed n.dialed.length)), n.withSocket q) := rfl
  exact .dial dialed (withSocket_cell n q)

/-- A connection that is none of the streams can be presented at any time. -/
theorem Step.presented {x : Stream} (outside : x.IsOutside (own past) n) :
    Step past n (.presented n.accepted.length (n.nextSignal x.signal.lineage) x)
      (Network.present x n).2 :=
  .present outside rfl (present_cell x n)

/-- A dial that ends with something other than a stream changes nothing. -/
theorem arrive_cases {i : Nat} {g : Signal} {product : Except TransportError Product}
    {result : Except TransportError Stream}
    (arrived : (ofExcept product >>= arrive i g) n = (result, n')) :
    (∃ e, result = .error e ∧ n' = n) ∨
      ∃ x, product = .ok (.stream x) ∧ result = .ok (dialedStream n i g x) ∧
        n' = afterArrival n i g x := by
  cases product with
  | error e =>
      have failed : ofExcept (.error e : Except TransportError Product) n = (.error e, n) := rfl
      rw [bind_of_error failed] at arrived
      cases arrived
      exact .inl ⟨e, rfl, rfl⟩
  | ok product =>
      have yielded : ofExcept (.ok product) n = (.ok product, n) := rfl
      rw [bind_of_ok yielded] at arrived
      cases product with
      | stream x =>
          cases (arrive_stream n i g x).symm.trans arrived
          exact .inr ⟨x, rfl, rfl, rfl⟩
      | packet _ | muxed _ | streamListener _ | muxListener _ =>
          cases arrived
          exact .inl ⟨_, rfl, rfl⟩

/-- A step keeps the sockets and streams as the history tells, and takes no firing back. -/
theorem Sound.step (sound : Sound past n) (step : Step past n e n') :
    Sound (e :: past) n' ∧ n.signals.fired ⊆ n'.signals.fired := by
  have still : n.signals.fired ⊆ n.signals.fired := List.Subset.refl _
  cases step with
  | dial dialed cell =>
      obtain ⟨rfl, rfl⟩ := withSocket_of_dial dialed
      cases cell.symm.trans (withSocket_cell n _)
      exact ⟨sound.made _, still⟩
  | redial redialed cell =>
      obtain ⟨q, rfl, rfl⟩ := withSocket_of_redial redialed
      cases cell.symm.trans (withSocket_cell n _)
      exact ⟨sound.made _, still⟩
  | @present x i s _ outside presented cell =>
      cases presented
      cases cell.symm.trans (present_cell x n)
      exact ⟨sound.presented outside, still⟩
  | refuse made fired | call made unfired =>
      exact ⟨sound.idle trivial ⟨rfl, rfl⟩ (fun _ => rfl) rfl, still⟩
  | arrive made underway outside arrived =>
      obtain ⟨e, rfl, rfl⟩ | ⟨x, yields, rfl, rfl⟩ := arrive_cases arrived
      · exact ⟨sound.idle trivial ⟨rfl, rfl⟩ (fun _ => rfl) rfl, still⟩
      · exact ⟨sound.arrived made (outside x yields), still⟩
  | @look i g x answer _ presented looked =>
      cases fired : n.isFired g with
      | true =>
          cases (sound.openStream_closed presented fired).symm.trans looked
          exact ⟨sound.idle trivial ⟨rfl, rfl⟩ (fun _ => rfl) rfl, still⟩
      | false =>
          cases taken : past.any (Happening.takes i) with
          | true =>
              cases (sound.openStream_spent presented fired taken).symm.trans looked
              exact ⟨sound.idle trivial ⟨rfl, rfl⟩ (fun _ => rfl) rfl, still⟩
          | false =>
              cases (sound.openStream_first presented fired taken).symm.trans looked
              exact ⟨sound.looked presented, still⟩
  | @closeDialed i g q made =>
      refine ⟨sound.closedDialed made, ?_⟩
      rw [sound.closeSocket_dialed made]
      exact Signals.fired_subset_fire g
  | closeAccepted presented =>
      obtain ⟨m, eq, fires, -⟩ := sound.closeSocket_accepted presented
      refine ⟨sound.closedAccepted presented, ?_⟩
      rw [eq]
      exact fires.fired
  | @use t has op => exact ⟨sound.used has op, (perform_firing t op n).fired⟩
  | @closeStream t has => exact ⟨sound.closedStream has, (closeStream_firing t n).1.fired⟩
  | @follow t has closed => exact ⟨sound.follows has closed, Signals.fired_subset_fire t.signal⟩
  | release released => exact ⟨sound.released released, (release_firing released).1.fired⟩
  | elsewhere beyond => exact ⟨sound.beyond beyond, beyond.fired⟩

theorem sound_start (numbered : n.IsNumbered) : Sound [] n where
  told := {
    owner := fun _ h => absurd h List.not_mem_nil
    grounded := fun _ h => absurd h List.not_mem_nil }
  tallied := {
    numbered := numbered
    made := fun _ h => absurd h List.not_mem_nil
    demuxers := fun _ _ => List.not_mem_nil
    outside := fun _ h => absurd h List.not_mem_nil
    links := fun _ h => absurd h List.not_mem_nil
    fired := fun _ _ h => absurd h List.not_mem_nil
    firing := fun _ h => absurd h List.not_mem_nil }
  dialed _ _ _ h := absurd h List.not_mem_nil
  accepted _ _ _ h := absurd h List.not_mem_nil
  followed _ h := absurd h List.not_mem_nil

theorem Reached.sound (reached : Reached past n) : Sound past n := by
  induction reached with
  | start numbered => exact sound_start numbered
  | step _ step ih => exact (ih.step step).1

/-- The network's own step closes one of the streams, or leaves them alone. -/
theorem Reached.linkStep (reached : Reached past n) (step : n.linkStep? = some n') :
    ∃ e, Step past n e n' := by
  have sound := reached.sound
  simp only [linkStep?, Option.bind_eq_bind, Option.bind_eq_some_iff] at step
  obtain ⟨l, found, fired⟩ := step
  cases fired
  have hl := List.mem_of_find?_eq_some found
  have closed : n.isFired l.2 = true := by
    have both := List.find?_some found
    rw [Bool.and_eq_true] at both
    exact both.1
  by_cases owned : l.1.number ∈ own past
  · obtain ⟨t, ht, rfl⟩ := (sound.tallied.links l owned).1 hl
    exact ⟨_, .follow ht closed⟩
  · have fires : Network.Fires (· = l.1) n (n.fire l.1) := .fire rfl
    refine ⟨_, .elsewhere (sound.keeps_of_fires fires ?_ ?_)⟩
    · rintro f rfl
      exact sound.tallied.numbered.links l hl
    · rintro f rfl
      exact owned

theorem Reached.arrivals_le (reached : Reached past n) (i : Nat) :
    arrivals i past ≤ calls i past := by
  induction reached with
  | start => exact Nat.le_refl _
  | @step past n n' e _ step ih =>
      rw [arrivals, calls, List.countP_cons, List.countP_cons]
      change arrivals i past + _ ≤ calls i past + _
      cases step with
      | @arrive j _ _ _ _ _ made underway outside arrived =>
          by_cases same : j = i
          · subst same
            simp only [Happening.isArrival, beq_self_eq_true, if_true]
            exact Nat.le_add_right_of_le underway
          · simp only [Happening.isArrival, beq_false_of_ne same, Bool.false_eq_true, if_false]
            exact Nat.le_add_right_of_le ih
      | _ => exact Nat.le_add_right_of_le ih

/-- Once the links have settled, every stream has followed its connection. -/
theorem Sound.settled (sound : Sound past n) (quiet : n.linkStep? = none) {t : Stream}
    (has : t ∈ handed past) (closed : n.isFired t.connection.signal = true) :
    n.isFired t.signal = true := by
  have linked : (t.signal, t.connection.signal) ∈ n.links :=
    (sound.tallied.links _ (sound.told.number_of_handed has)).2 ⟨t, has, rfl⟩
  rw [← Bool.not_eq_false]
  intro unfired
  have found : (n.links.find? fun l => n.isFired l.2 && !n.isFired l.1).isSome = true :=
    List.find?_isSome.2 ⟨_, linked, by simp [closed, unfired]⟩
  obtain ⟨l, hl⟩ := Option.isSome_iff_exists.1 found
  simp [linkStep?, hl] at quiet

end Single

end TransportStack
